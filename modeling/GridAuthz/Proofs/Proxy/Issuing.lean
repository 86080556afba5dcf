import GridAuthz.Proofs.Chain.Acceptance
import GridAuthz.Proofs.Names
import GridAuthz.Proofs.Proxy.CertInfo
import GridAuthz.Proofs.RsaSigning
import GridAuthz.Proxy.Request

/-!
# What an issued proxy is

Issuing a proxy goes through a request step by step (`ProxyRequest.issue_eq_ok_iff`). What comes out
is put together as asked (`ProxyRequest.Issued`), and whoever examines it finds that: it is signed
by its issuer, no authority, and says of itself what was requested (`Issued.proxyInfo`).
-/

namespace GridAuthz

open Der

/-! ### Lengths -/

namespace CertificateBody

/-- The value of an extension is no longer than the body it stands in. -/
theorem length_value_le {b : CertificateBody} {xs : List Extension} (h : b.extensions = some xs)
    {x : Extension} (hx : x ∈ xs) : x.value.length ≤ b.toElement.encode.length := by
  have hvalue : x.value.length ≤ x.toElement.content.length :=
    Element.length_content_le_of_mem (e := .ofOctets x.value) (by simp)
  have hextension : x.toElement.content.length ≤
      (Element.sequenceOf Extension.toElement xs).content.length :=
    Element.length_content_le_of_mem (List.mem_map_of_mem hx)
  have hextensions : (Element.sequenceOf Extension.toElement xs).content.length ≤
      ((Element.sequenceOf Extension.toElement xs).explicit 3).content.length :=
    Element.length_content_le _
  have hfield : ((Element.sequenceOf Extension.toElement xs).explicit 3).content.length ≤
      b.toElement.content.length :=
    Element.length_content_le_of_mem (by simp [h])
  have hbody := Element.length_content_le b.toElement
  omega

/-- The bytes of the public key are no longer than the body they stand in. -/
theorem length_publicKey_le (b : CertificateBody) :
    b.publicKey.key.bytes.length ≤ b.toElement.encode.length := by
  have hbits : b.publicKey.key.toElement.content.length ≤
      b.publicKey.toElement.content.length := Element.length_content_le_of_mem (by simp)
  have hfield : b.publicKey.toElement.content.length ≤ b.toElement.content.length :=
    Element.length_content_le_of_mem (by simp)
  have hbody := Element.length_content_le b.toElement
  have hbytes : b.publicKey.key.toElement.content.length = b.publicKey.key.bytes.length + 1 := by
    simp [BitString.toElement, BitString.content]
  omega

end CertificateBody

/-! ### Public keys -/

/-- The numbers of a public key read back from its element. -/
theorem RsaPublicKey.ofDer?_encode_elementOf {modulus exponent : Nat}
    (hlen : (elementOf modulus exponent).encode.length ≤ maxLength) :
    ofDer? (elementOf modulus exponent).encode = ofNumbers? modulus exponent := by
  have hcontent := (Element.length_content_le _).trans hlen
  rw [ofDer?, Element.decode?_encode hcontent, Option.bind_some, ofElement?, elementOf,
    Element.sequence?_sequence hcontent]
  simp

theorem ProxyRequest.ofInfo?_publicKeyInfo {key : RsaPrivateKey}
    (hlen : key.publicElement.encode.length ≤ maxLength) :
    PublicKey.ofInfo? (publicKeyInfo key) = key.publicKey?.map .rsa := by
  have hne : Algorithm.rsaEncryption ≠ Algorithm.ecPublicKey := by decide
  have hread : RsaPublicKey.ofDer? key.publicElement.encode = key.publicKey? :=
    RsaPublicKey.ofDer?_encode_elementOf hlen
  simp [PublicKey.ofInfo?, publicKeyInfo, hne, hread]

/-- The key of a certificate verifies what is signed with its private key. -/
theorem RsaPrivateKey.isKeyOf_iff {key : RsaPrivateKey} {c : Certificate} :
    key.isKeyOf c = true ↔ ∃ pk, key.publicKey? = some pk ∧ c.publicKey? = some (.rsa pk) := by
  rw [isKeyOf]
  cases key.publicKey? with
  | none => simp
  | some pk => cases c.publicKey? <;> simp [eq_comm]

/-- A credential is only put together if its key belongs to the leaf. -/
theorem Credential.isKeyOf_of_ofChain {key : RsaPrivateKey} {chain : List Certificate}
    {c : Credential} (h : ofChain key chain = .ok c) : c.privateKey.isKeyOf c.leaf = true := by
  cases chain with
  | nil => simp [ofChain] at h
  | cons leaf issuers =>
    rw [ofChain] at h
    split_ifs at h with hread hkey
    cases h
    exact hkey

namespace ProxyRequest

/-! ### Issuing -/

variable {r : ProxyRequest} {issuer c : Credential} {now : Duration} {key : RsaPrivateKey}
  {serial : UInt32}

theorem body_eq_ok_iff {leaf : Certificate} {b : CertificateBody} :
    r.body leaf now key serial = .ok b ↔
      ∃ validity serialNumber, r.validity leaf now = .ok validity ∧
        SerialNumber.ofNat? serial.toNat = some serialNumber ∧
        b = ⟨.v3, serialNumber, signatureAlgorithm, leaf.subject, validity,
          r.subject leaf.subject serial, publicKeyInfo key, none, none, some r.extensions⟩ := by
  rw [body, bind_eq_ok_iff]
  cases SerialNumber.ofNat? serial.toNat with
  | none => simp
  | some serialNumber => simp [eq_comm]

theorem sign_eq_ok_iff {signer : RsaPrivateKey} {b : CertificateBody} {leaf : Certificate} :
    sign signer b = .ok leaf ↔ b.toElement.encode.length ≤ maxLength ∧
      ∃ signature, signer.sign? .sha256 b.toElement.encode = some signature ∧
        leaf = ⟨b, signatureAlgorithm, .ofBytes signature⟩ := by
  rw [sign, Element.encode?]
  split_ifs with hlen
  · rw [and_iff_right hlen]
    cases hsign : signer.sign? .sha256 b.toElement.encode <;> simp [hsign, @eq_comm _ leaf]
  · simp [hlen]

/-- A proxy is issued when the request passes its check, the body can be put together, and the
issuer signs it. -/
theorem issue_eq_ok_iff :
    r.issue issuer now key serial = .ok c ↔
      r.check = .ok () ∧ ∃ b, r.body issuer.leaf now key serial = .ok b ∧
        ∃ leaf, sign issuer.privateKey b = .ok leaf ∧ c = ⟨key, leaf, issuer.chain⟩ := by
  rw [issue, check_bind_eq_ok_iff]
  simp only [bind_eq_ok_iff, pure_eq_ok_iff, @eq_comm _ _ c]

/-- The credential holds a proxy as it was requested. -/
structure Issued (r : ProxyRequest) (issuer : Credential) (key : RsaPrivateKey) (serial : UInt32)
    (c : Credential) : Prop where
  /-- The private key is the new one. -/
  privateKey_eq : c.privateKey = key
  /-- The chain of the issuer follows. -/
  issuers_eq : c.issuers = issuer.chain
  /-- The proxy names its issuer. -/
  issuer_eq : c.leaf.issuer = issuer.leaf.subject
  /-- The name of the proxy is that of the issuer with one more common name. -/
  subject_eq : c.leaf.subject = r.subject issuer.leaf.subject serial
  /-- The proxy holds the new public key. -/
  publicKey_eq : c.leaf.body.publicKey = publicKeyInfo key
  /-- The extensions are those of the request. -/
  extensions_eq : c.leaf.body.extensions = some r.extensions
  /-- The body of the proxy is not too long for an encoding. -/
  length_le : c.leaf.signedBytes.length ≤ maxLength
  /-- The issuer signs the body. -/
  signed : ∃ signature, issuer.privateKey.sign? .sha256 c.leaf.signedBytes = some signature ∧
    Signature.of? c.leaf.signatureAlgorithm c.leaf.signature = some (.rsa .sha256 signature)

theorem issued_of_issue (h : r.issue issuer now key serial = .ok c) :
    r.Issued issuer key serial c := by
  obtain ⟨-, b, hbody, leaf, hleaf, rfl⟩ := issue_eq_ok_iff.1 h
  obtain ⟨validity, serialNumber, -, -, rfl⟩ := body_eq_ok_iff.1 hbody
  obtain ⟨hlen, signature, hsignature, rfl⟩ := sign_eq_ok_iff.1 hleaf
  refine ⟨rfl, rfl, rfl, rfl, rfl, rfl, hlen, signature, hsignature, ?_⟩
  have hne : Algorithm.sha256WithRsa ≠ Algorithm.ecdsaWithSha256 := by decide
  simp [Signature.of?, signatureAlgorithm, Signature.rsaDigest?, hne]

/-! ### Examining a proxy -/

/-- What a requested proxy is to say of itself. -/
def proxyInfo (r : ProxyRequest) : ProxyInfo where
  kind := r.kind
  limited := r.delegation = .limited
  pathLength := if r.kind = .legacy then none else r.pathLength

theorem id_of_infoExtension? {x : Extension} (h : r.infoExtension? = some x) :
    x.id = ProxyCertInfo.extensionId ∨ x.id = ProxyCertInfo.draftExtensionId := by
  rw [infoExtension?] at h
  cases hkind : r.kind with
  | legacy => simp [hkind] at h
  | draft =>
    simp only [hkind, Option.some.injEq] at h
    exact .inr (by rw [← h])
  | rfc3820 =>
    simp only [hkind, Option.some.injEq] at h
    exact .inl (by rw [← h])

theorem id_of_membershipExtension? {x : Extension} (h : r.membershipExtension? = some x) :
    x.id = Membership.extensionId := by
  simp only [membershipExtension?, Option.ite_none_left_eq_some, Option.some.injEq] at h
  rw [← h.2]

/-- What is sought by the meaning of an extension is the proxy information or the attribute
certificates, unless it is the usage of the key. -/
theorem find?_extensions (r : ProxyRequest) {p : Extension → Bool} (hp : p keyUsage = false) :
    r.extensions.find? p = (r.infoExtension?.filter p).or (r.membershipExtension?.filter p) := by
  have hfind : ∀ x : Option Extension, x.toList.find? p = x.filter p := by
    intro x
    cases x with
    | none => rfl
    | some x => cases h : p x <;> simp [h, Option.filter_some]
  rw [extensions, List.find?_cons_of_neg (by simp [hp]), List.find?_append, hfind, hfind]

theorem find?_isInfoExtension (r : ProxyRequest) :
    r.extensions.find? Proxy.isInfoExtension = r.infoExtension? := by
  have hinfo : r.infoExtension?.filter Proxy.isInfoExtension = r.infoExtension? := by
    cases hx : r.infoExtension? with
    | none => rfl
    | some x =>
      rw [Option.filter_some, if_pos]
      rcases id_of_infoExtension? hx with h | h <;> simp [Proxy.isInfoExtension, h]
  have hmembership : r.membershipExtension?.filter Proxy.isInfoExtension = none := by
    rw [Option.filter_eq_none_iff]
    intro x hx
    rw [Proxy.isInfoExtension, id_of_membershipExtension? hx]
    decide
  rw [find?_extensions r (by decide), hinfo, hmembership, Option.or_none]

theorem find?_membership (r : ProxyRequest) :
    Extension.find? Membership.extensionId r.extensions = r.membershipExtension? := by
  have hinfo : r.infoExtension?.filter (·.id = Membership.extensionId) = none := by
    rw [Option.filter_eq_none_iff]
    intro x hx
    rcases id_of_infoExtension? hx with h | h <;> rw [h] <;> decide
  have hmembership : r.membershipExtension?.filter (·.id = Membership.extensionId) =
      r.membershipExtension? := by
    cases hx : r.membershipExtension? with
    | none => rfl
    | some x => rw [Option.filter_some, if_pos (by simp [id_of_membershipExtension? hx])]
  rw [Extension.find?, find?_extensions r (by decide), hinfo, hmembership, Option.none_or]

theorem find?_basicConstraints (r : ProxyRequest) :
    Extension.find? BasicConstraints.extensionId r.extensions = none := by
  have hinfo : r.infoExtension?.filter (·.id = BasicConstraints.extensionId) = none := by
    rw [Option.filter_eq_none_iff]
    intro x hx
    rcases id_of_infoExtension? hx with h | h <;> rw [h] <;> decide
  have hmembership : r.membershipExtension?.filter (·.id = BasicConstraints.extensionId) =
      none := by
    rw [Option.filter_eq_none_iff]
    intro x hx
    rw [id_of_membershipExtension? hx]
    decide
  rw [Extension.find?, find?_extensions r (by decide), hinfo, hmembership, Option.none_or]

/-- The information reads back from the extension that it is written to. -/
theorem infoOfExtension_infoExtension? {x : Extension} (h : r.infoExtension? = some x)
    (hlen : x.value.length ≤ maxLength) : Proxy.infoOfExtension x = .ok r.proxyInfo := by
  have hlanguage : r.info.policy.language.IsReadable := by
    cases hd : r.delegation <;> simp only [info, hd] <;> decide
  have hlimited : Proxy.isLimited r.info.policy.language = .ok (r.delegation = .limited) := by
    cases hd : r.delegation <;> simp only [info, hd] <;> rfl
  rw [infoExtension?] at h
  cases hkind : r.kind with
  | legacy => simp [hkind] at h
  | draft =>
    simp only [hkind, Option.some.injEq] at h
    subst h
    have hread : ProxyCertInfo.ofDraftDer? r.info.toDraftElement.encode = some r.info :=
      (ProxyCertInfo.draftReadsBackOn.of_encode? (if_pos hlen) _).2 ⟨hlanguage, rfl⟩
    have hid : ProxyCertInfo.draftExtensionId ≠ ProxyCertInfo.extensionId := by decide
    simp [Proxy.infoOfExtension, hid, hread, hlimited, proxyInfo, hkind]
    rfl
  | rfc3820 =>
    simp only [hkind, Option.some.injEq] at h
    subst h
    have hread : ProxyCertInfo.ofDer? r.info.toElement.encode = some r.info :=
      (ProxyCertInfo.readsBackOn.of_encode? (if_pos hlen) _).2 ⟨hlanguage, rfl⟩
    simp [Proxy.infoOfExtension, hread, hlimited, proxyInfo, hkind]
    rfl

/-- A legacy proxy is recognised by its name. -/
theorem legacyInfo?_subject (hkind : r.kind = .legacy) {n : Name} (htexts : n.HasOnlyTexts) :
    Proxy.legacyInfo? (r.subject n serial) n = some r.proxyInfo := by
  have hne : Proxy.legacyLimitedName ≠ Proxy.legacyName := by decide
  rw [Proxy.legacyInfo?, subject, if_pos (Proxy.extendsByCommonName_extend htexts _),
    Proxy.lastCommonName?_extend]
  cases hd : r.delegation with
  | full => simp [commonName, hkind, hd, proxyInfo]
  | limited => simp [commonName, hkind, hd, hne, proxyInfo]

namespace Issued

variable (h : r.Issued issuer key serial c)
include h

theorem extensions_leaf : c.leaf.extensions = r.extensions := by
  rw [Certificate.extensions, h.extensions_eq, Option.getD_some]

theorem length_value_le {x : Extension}
    (hx : r.infoExtension? = some x ∨ r.membershipExtension? = some x) :
    x.value.length ≤ maxLength := by
  have hmem : x ∈ r.extensions := by
    rcases hx with hx | hx <;> simp [extensions, hx]
  exact (CertificateBody.length_value_le h.extensions_eq hmem).trans h.length_le

theorem hasOnlyTexts (htexts : issuer.leaf.subject.HasOnlyTexts) : c.leaf.subject.HasOnlyTexts := by
  rw [h.subject_eq]
  exact htexts.extend _ _

theorem isAuthority : c.leaf.isAuthority = false := by
  rw [Certificate.isAuthority, h.extensions_leaf, find?_basicConstraints]
  rfl

/-- Where the issuer holds the key of its own certificate, the proxy is signed by it. -/
theorem isSignedBy (hkey : issuer.privateKey.isKeyOf issuer.leaf = true) :
    c.leaf.IsSignedBy issuer.leaf := by
  obtain ⟨pk, hpk, hleaf⟩ := RsaPrivateKey.isKeyOf_iff.1 hkey
  obtain ⟨signature, hsign, hread⟩ := h.signed
  exact ⟨.rsa pk, .rsa .sha256 signature, hleaf, hread,
    RsaPrivateKey.verifies_of_sign? hpk hsign⟩

/-- If the new public key can be read, the new private key belongs to it. -/
theorem isKeyOf (hread : c.leaf.publicKey?.isSome = true) :
    c.privateKey.isKeyOf c.leaf = true := by
  have hlen : key.publicElement.encode.length ≤ maxLength := by
    have hle := (CertificateBody.length_publicKey_le c.leaf.body).trans h.length_le
    rwa [h.publicKey_eq] at hle
  have hkey : c.leaf.publicKey? = key.publicKey?.map .rsa := by
    rw [Certificate.publicKey?, h.publicKey_eq, ofInfo?_publicKeyInfo hlen]
  rw [RsaPrivateKey.isKeyOf_iff, h.privateKey_eq, hkey]
  rw [hkey, Option.isSome_map] at hread
  obtain ⟨pk, hpk⟩ := Option.isSome_iff_exists.1 hread
  exact ⟨pk, hpk, by rw [hpk, Option.map_some]⟩

/-- The proxy says of itself what was requested. -/
theorem proxyInfo_leaf (htexts : issuer.leaf.subject.HasOnlyTexts) :
    c.leaf.proxyInfo (some issuer.leaf) = .ok (some r.proxyInfo) := by
  rw [Certificate.proxyInfo, h.extensions_leaf, find?_isInfoExtension]
  cases hx : r.infoExtension? with
  | none =>
    have hkind : r.kind = .legacy := by
      cases hkind : r.kind <;> simp [infoExtension?, hkind] at hx ⊢
    simp [h.subject_eq, legacyInfo?_subject hkind htexts]
  | some x =>
    have hinfo := infoOfExtension_infoExtension? hx (h.length_value_le (.inl hx))
    have hname : Proxy.extendsByCommonName c.leaf.subject issuer.leaf.subject = true := by
      rw [h.subject_eq]
      exact Proxy.extendsByCommonName_extend htexts _
    simp only [hinfo, hname, Option.all_some, if_true]
    rfl

theorem find?_membershipExtension :
    Extension.find? Membership.extensionId c.leaf.extensions = r.membershipExtension? := by
  rw [h.extensions_leaf, find?_membership]

end Issued

end ProxyRequest

end GridAuthz
