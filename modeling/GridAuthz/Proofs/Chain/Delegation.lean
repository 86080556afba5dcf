import GridAuthz.Proofs.Proxy.Delegation

/-!
# Chains of issued proxies

The chain validator takes proxies that were issued one with the other for what they are. It accepts
their chain exactly if under no proxy there are more than it allows, and the verdict follows from
the levels (`validateChain_issueAll`).
-/

namespace GridAuthz

/-! ### Acceptance -/

variable {c d : Credential} {levels : List Issuance} {anchors : List Certificate} {now : Duration}

/-- Under no proxy are there more than it allows. The proxy of level `j` has all those of the later
levels under it, and legacy proxies cannot say how many they allow. -/
def KeepsPathLengths (levels : List Issuance) : Prop :=
  ∀ (j : Nat) (l : Issuance) (allowed : UInt32), levels[j]? = some l → l.request.kind ≠ .legacy →
    l.request.pathLength = some allowed → levels.length - (j + 1) ≤ allowed.toNat

/-- Counted from the leaf, as many proxies are under a proxy as its place says. -/
theorem keepsPathLengths_iff :
    KeepsPathLengths levels ↔ ∀ (i : Nat) (l : Issuance) (allowed : UInt32),
      levels.reverse[i]? = some l → l.request.proxyInfo.pathLength = some allowed →
        i ≤ allowed.toNat := by
  have hpathLength : ∀ (l : Issuance) (allowed : UInt32),
      l.request.proxyInfo.pathLength = some allowed ↔
        l.request.kind ≠ .legacy ∧ l.request.pathLength = some allowed := by
    intro l allowed
    rw [ProxyRequest.proxyInfo, Option.ite_none_left_eq_some]
  simp only [hpathLength]
  constructor
  · rintro h i l allowed hl ⟨hkind, hallowed⟩
    have hi := lt_of_level hl
    rw [List.getElem?_reverse hi] at hl
    have := h _ l allowed hl hkind hallowed
    omega
  · intro h j l allowed hl hkind hallowed
    have hj := (List.getElem?_eq_some_iff.1 hl).1
    refine h (levels.length - (j + 1)) l allowed ?_ ⟨hkind, hallowed⟩
    rw [List.getElem?_reverse (by omega), ← hl]
    congr 1
    omega

/-- If the chain is acceptable at all, it has as many proxies as levels. -/
theorem Delegates.eq_length (h : Delegates c levels d) (hc : endEntityIndex? c.chain = some 0)
    {e : Nat} (he : Chain.IsAcceptable anchors d.chain now e) : e = levels.length := by
  have heq := h.endEntityIndex?_eq hc
  rwa [he.endEntityIndex?_eq, Option.some.injEq] at heq

/-- The issuer of a proxy is another proxy or the end entity. -/
theorem Delegates.isAuthority_issuer (h : Delegates c levels d)
    (hc : c.leaf.isAuthority = false) {i : Nat} (hi : i < levels.length) {y : Certificate}
    (hy : d.chain[i + 1]? = some y) : y.isAuthority = false := by
  rcases Nat.lt_or_eq_of_le (Nat.succ_le_of_lt hi) with hlt | heq
  · obtain ⟨l, hl⟩ := exists_level hlt
    obtain ⟨x, x', hx, -, hproxy⟩ := h.isProxyOf (i + 1) l hl
    cases hx.symm.trans hy
    exact hproxy.isAuthority
  · rw [show i + 1 = levels.length + 0 from heq, h.getElem?_add] at hy
    cases hy
    exact hc

/-- The proxies are issued by the next certificate, and the other certificates as they were. -/
theorem Delegates.isIssuedBy (h : Delegates c levels d)
    (hsigned : ∀ i < levels.length, ∀ x y, d.chain[i]? = some x → d.chain[i + 1]? = some y →
      x.IsSignedBy y)
    (hc : Chain.IsAcceptable anchors c.chain now 0) {i : Nat} {x y : Certificate}
    (hx : d.chain[i]? = some x) (hy : d.chain[i + 1]? = some y) :
    Chain.IsIssuedBy levels.length i x y := by
  by_cases hi : i < levels.length
  · obtain ⟨l, -, hproxy⟩ := h.exists_isProxyOf hi hx hy
    exact ⟨hproxy.agrees, fun hle => absurd hi (by omega), hsigned i hi x y hx hy⟩
  · -- from the end entity on, the places are those of the chain that was there
    obtain ⟨k, rfl⟩ := Nat.exists_eq_add_of_le (Nat.le_of_not_lt hi)
    rw [h.getElem?_add] at hx
    rw [Nat.add_assoc, h.getElem?_add] at hy
    obtain ⟨hagrees, hissuer, hsigned⟩ := hc.issued k x y hx hy
    exact ⟨hagrees, fun _ => hissuer (Nat.zero_le k), hsigned⟩

theorem Delegates.isAcceptable_iff (h : Delegates c levels d)
    (hsigned : ∀ i < levels.length, ∀ x y, d.chain[i]? = some x → d.chain[i + 1]? = some y →
      x.IsSignedBy y)
    (hauthority : c.leaf.isAuthority = false)
    (hc : Chain.IsAcceptable anchors c.chain now 0)
    (hvalid : ∀ x ∈ d.chain.take levels.length, x.notBefore ≤ now ∧ now ≤ x.notAfter) :
    Chain.IsAcceptable anchors d.chain now levels.length ↔ KeepsPathLengths levels := by
  rw [keepsPathLengths_iff]
  constructor
  · intro hd i l allowed hl hallowed
    obtain ⟨x, y, hx, hy, hproxy⟩ := h.isProxyOf i l hl
    obtain ⟨info, hinfo, hallows, -⟩ := hd.proxy i (lt_of_level hl) x y hx hy
    cases hproxy.proxyInfo.symm.trans hinfo
    exact hallows allowed hallowed
  · intro hlengths
    exact {
      endEntity_lt := by
        have hlength := h.length_eq
        have hlt := hc.endEntity_lt
        omega
      valid := fun x hx => (h.mem_chain_iff.1 hx).elim (hvalid x) (hc.valid x)
      proxy := by
        intro i hi x y hx hy
        obtain ⟨l, hl, hproxy⟩ := h.exists_isProxyOf hi hx hy
        exact ⟨_, hproxy.proxyInfo, fun allowed => hlengths i l allowed hl,
          hproxy.isAuthority, h.isAuthority_issuer hauthority hi hy⟩
      noProxy := by
        intro x hx
        rw [h.getElem?_add 1]
        exact hc.noProxy x (h.getElem?_add 0 ▸ hx)
      issued := fun i x y hx hy => h.isIssuedBy hsigned hc hx hy
      anchored := by
        intro x hx
        refine hc.anchored x ?_
        rw [← h.drop_eq, List.getLast?_drop, if_neg, hx]
        have hlength := h.length_eq
        have hlt := hc.endEntity_lt
        omega }

theorem exists_validateChain_issueAll_iff {E : ValidatedChain}
    (hkey : c.privateKey.isKeyOf c.leaf = true) (hauthority : c.leaf.isAuthority = false)
    (htexts : c.leaf.subject.HasOnlyTexts)
    (hE : validateChain anchors c.chain now = .ok E) (hend : E.endEntity = 0)
    (hissue : c.issueAll levels = .ok d)
    (hread : ∀ x ∈ d.chain.take levels.length, x.publicKey?.isSome = true)
    (hvalid : ∀ x ∈ d.chain.take levels.length, x.notBefore ≤ now ∧ now ≤ x.notAfter) :
    (∃ v, validateChain anchors d.chain now = .ok v) ↔ KeepsPathLengths levels := by
  have h := delegates_of_issueAll htexts hissue
  obtain ⟨-, hsigned⟩ := signed_of_issueAll hkey hissue hread
  obtain ⟨hacceptable, -⟩ := Chain.validateChain_eq_ok_iff.1 hE
  rw [hend] at hacceptable
  rw [← h.isAcceptable_iff hsigned hauthority hacceptable hvalid,
    Chain.exists_validateChain_eq_ok_iff]
  refine ⟨fun ⟨e, he⟩ => ?_, fun hd => ⟨_, hd⟩⟩
  rwa [← h.eq_length hacceptable.endEntityIndex?_eq he]

/-! ### Verdicts -/

/-- The verdict on an accepted chain, read off the levels and the verdict on the chain that was
there. -/
theorem Delegates.eq_of_validateChain (h : Delegates c levels d) {E v : ValidatedChain}
    (hE : validateChain anchors c.chain now = .ok E) (hend : E.endEntity = 0)
    (hv : validateChain anchors d.chain now = .ok v) :
    v = { endEntity := levels.length
          proxyKind := levels.getLast?.map (·.request.kind)
          limited := levels.any (·.request.delegation = .limited)
          notAfter := (d.chain.take levels.length).foldl (fun m x => min m x.notAfter)
            E.notAfter } := by
  obtain ⟨hacceptable, hdescribes⟩ := Chain.validateChain_eq_ok_iff.1 hE
  obtain ⟨hacceptable', hdescribes'⟩ := Chain.validateChain_eq_ok_iff.1 hv
  rw [hend] at hacceptable
  have hlength := h.eq_length hacceptable.endEntityIndex?_eq hacceptable'
  have hproxy : ∀ i ≤ levels.length, ∀ info, IsProxyAt d.chain i info ↔
      ∃ l, levels.reverse[i]? = some l ∧ l.request.proxyInfo = info :=
    fun i hi info => h.isProxyAt_iff hacceptable.endEntityIndex?_eq hi
  obtain ⟨y, hy, hlast⟩ := hdescribes.notAfter_mem
  refine hdescribes'.eq ⟨fun kind => ?_, ?_, ?_, ?_, ?_⟩ hlength
  · simp [hproxy, List.getLast?_eq_head?_reverse, List.head?_eq_getElem?,
      ProxyRequest.proxyInfo]
  · simp
  · rw [List.any_eq_true]
    constructor
    · rintro ⟨l, hl, hlimited⟩
      obtain ⟨i, hi⟩ := List.mem_iff_getElem?.1 (List.mem_reverse.2 hl)
      have hlt := lt_of_level hi
      exact ⟨i, hlt, _, (hproxy i hlt.le _).2 ⟨l, hi, rfl⟩, hlimited⟩
    · rintro ⟨i, hlt, info, hinfo, hlimited⟩
      obtain ⟨l, hl, rfl⟩ := (hproxy i (Nat.le_of_lt hlt) info).1 hinfo
      exact ⟨l, List.mem_reverse.1 (List.mem_of_getElem? hl), hlimited⟩
  · intro x hx
    have hle := Chain.le_foldl_min_iff.1 (le_refl
      ((d.chain.take levels.length).foldl (fun m x => min m x.notAfter) E.notAfter))
    rcases h.mem_chain_iff.1 hx with hx | hx
    · exact hle.2 x hx
    · exact hle.1.trans (hdescribes.notAfter_le x hx)
  · rw [hlast]
    obtain ⟨x, hx, heq⟩ := Chain.earliestExpiry_mem y (d.chain.take levels.length)
    refine ⟨x, h.mem_chain_iff.2 ?_, heq⟩
    rcases List.mem_cons.1 hx with rfl | hx
    · exact .inr hy
    · exact .inl hx

/-! ### A chain of two proxies -/

namespace Sample

/-- A certificate for the key, signed with the key. -/
def sign (b : CertificateBody) : Certificate where
  body := b
  signatureAlgorithm := ProxyRequest.signatureAlgorithm
  signature := .ofBytes ((RsaPrivateKey.mersenne.sign? .sha256 b.toElement.encode).getD [])

/-- The body of a certificate without extensions. -/
def body (issuer subject : String) : CertificateBody where
  version := .v3
  serialNumber := ⟨[1], by decide, by decide⟩
  signature := ProxyRequest.signatureAlgorithm
  issuer := Name.extend ⟨[]⟩ ⟨AttributeType.commonName, .ofUtf8 issuer⟩
  validity := ⟨.utc ⟨2024, 1, 1, 0, 0, 0, by decide⟩ (by decide),
    .utc ⟨2025, 1, 1, 0, 0, 0, by decide⟩ (by decide)⟩
  subject := Name.extend ⟨[]⟩ ⟨AttributeType.commonName, .ofUtf8 subject⟩
  publicKey := ProxyRequest.publicKeyInfo .mersenne
  issuerUniqueId := none
  subjectUniqueId := none
  extensions := none

/-- The trust anchor. -/
def anchor : Certificate := sign (body "authority" "authority")

/-- The credential of the end entity. -/
def credential : Credential := ⟨.mersenne, sign (body "authority" "user"), []⟩

/-- A moment at which all certificates are valid. -/
def moment : Duration := (DateTime.mk 2024 6 1 0 0 0 (by decide)).moment

/-- A proxy for the key, issued with the key. -/
def issue (r : ProxyRequest) (issuer : Credential) (serial : UInt32) : Credential where
  privateKey := .mersenne
  leaf := sign (((r.body issuer.leaf moment .mersenne serial).toOption).getD (body "" ""))
  issuers := issuer.chain

theorem sign_eq {b : CertificateBody} (hlen : b.toElement.encode.length ≤ Der.maxLength) :
    ProxyRequest.sign .mersenne b = .ok (sign b) := by
  obtain ⟨signature, hsignature⟩ :=
    RsaPrivateKey.exists_sign?_mersenne b.toElement.encode
  exact ProxyRequest.sign_eq_ok_iff.2 ⟨hlen, signature, hsignature, by simp [sign, hsignature]⟩

theorem issue_eq {r : ProxyRequest} {issuer : Credential} {serial : UInt32}
    (hkey : issuer.privateKey = .mersenne) (hcheck : r.check = .ok ())
    (hbody : (r.body issuer.leaf moment .mersenne serial).isOk = true)
    (hlen : (issue r issuer serial).leaf.signedBytes.length ≤ Der.maxLength) :
    r.issue issuer moment .mersenne serial = .ok (issue r issuer serial) := by
  rw [issue, Certificate.signedBytes, sign] at hlen
  rw [ProxyRequest.issue_eq_ok_iff, issue]
  cases h : r.body issuer.leaf moment .mersenne serial with
  | error error => simp [h, Except.isOk, Except.toBool] at hbody
  | ok b =>
    rw [h] at hlen
    exact ⟨hcheck, b, rfl, sign b, hkey ▸ sign_eq hlen, rfl⟩

/-- An attribute certificate without attributes. -/
def attributes : AttributeCertificate where
  body := {
    version := 1
    holder := ⟨none, none⟩
    issuer := .v2 none none
    signature := ProxyRequest.signatureAlgorithm
    serialNumber := ⟨[1], by decide, by decide⟩
    validity := ⟨⟨2024, 1, 1, 0, 0, 0, by decide⟩, ⟨2025, 1, 1, 0, 0, 0, by decide⟩⟩
    attributes := []
    issuerUniqueId := none
    extensions := none }
  signatureAlgorithm := ProxyRequest.signatureAlgorithm
  signature := .ofBytes []

/-- A proxy with attributes is asked for, which allows one more under it. -/
def firstRequest : ProxyRequest := { pathLength := some 1, certificates := [attributes] }

/-- A legacy proxy with limited rights is asked for. -/
def secondRequest : ProxyRequest := { kind := .legacy, delegation := .limited }

/-- The first proxy. -/
def first : Credential := issue firstRequest credential 1

/-- The second proxy, issued with the first one. -/
def second : Credential := issue secondRequest first 2

/-- The first step. -/
def firstStep : Issuance := ⟨firstRequest, moment, .mersenne, 1⟩

/-- Both steps. -/
def steps : List Issuance := [firstStep, ⟨secondRequest, moment, .mersenne, 2⟩]

theorem issue_first : firstRequest.issue credential moment .mersenne 1 = .ok first :=
  issue_eq rfl (by decide +kernel) (by decide +kernel) (by decide +kernel)

theorem issue_second : secondRequest.issue first moment .mersenne 2 = .ok second :=
  issue_eq rfl (by decide +kernel) (by decide +kernel) (by decide +kernel)

theorem issueAll_firstStep : credential.issueAll [firstStep] = .ok first := by
  rw [← List.nil_append [firstStep], Credential.issueAll_append_singleton_eq_ok_iff]
  exact ⟨credential, rfl, issue_first⟩

theorem issueAll_steps : credential.issueAll steps = .ok second := by
  rw [steps, ← List.singleton_append, Credential.issueAll_append_singleton_eq_ok_iff]
  exact ⟨first, issueAll_firstStep, issue_second⟩

/-- What is signed with the key verifies with every certificate for it. -/
theorem exists_verifies (message : Bytes) {issuer : Certificate}
    (hkey : RsaPrivateKey.mersenne.isKeyOf issuer = true) :
    ∃ key signature, issuer.publicKey? = some key ∧
      Signature.of? ProxyRequest.signatureAlgorithm
        (.ofBytes ((RsaPrivateKey.mersenne.sign? .sha256 message).getD [])) = some signature ∧
      key.verifies message signature = true := by
  obtain ⟨pk, hpk, hissuer⟩ := RsaPrivateKey.isKeyOf_iff.1 hkey
  obtain ⟨signature, hsignature⟩ := RsaPrivateKey.exists_sign?_mersenne message
  refine ⟨.rsa pk, .rsa .sha256 signature, hissuer, ?_, ?_⟩
  · rw [hsignature]
    rfl
  · exact RsaPrivateKey.verifies_of_sign? hpk hsignature

theorem isSignedBy (b : CertificateBody) {issuer : Certificate}
    (hkey : RsaPrivateKey.mersenne.isKeyOf issuer = true) : (sign b).IsSignedBy issuer :=
  exists_verifies b.toElement.encode hkey

/-- What is signed with the key does not grow much by the signature and the algorithm behind it. -/
theorem length_signed_le {e : Der.Element} (hlen : e.encode.length ≤ 4096) :
    (Der.Element.sequence [e, ProxyRequest.signatureAlgorithm.toElement,
      (Der.BitString.ofBytes ((RsaPrivateKey.mersenne.sign? .sha256 e.encode).getD
        [])).toElement]).content.length ≤ 8192 := by
  -- the signature itself is never computed: that it is as long as the modulus is enough
  obtain ⟨signature, hsignature⟩ := RsaPrivateKey.exists_sign?_mersenne e.encode
  have hsize : signature.length ≤ 66 := by
    rw [RsaPrivateKey.length_of_sign? hsignature]
    decide +kernel
  have halgorithm : ProxyRequest.signatureAlgorithm.toElement.encode.length ≤ 20 := by
    decide +kernel
  have hcontent : (Der.BitString.ofBytes signature).toElement.content.length =
      signature.length + 1 := rfl
  have hbits := Der.Element.length_encode_le (e := (Der.BitString.ofBytes signature).toElement)
    (by rw [hcontent, Der.maxLength]; omega)
  rw [hsignature, Option.getD_some]
  simp only [Der.Element.sequence, Der.Element.encodeAll, List.flatMap_cons, List.flatMap_nil,
    List.append_nil, List.length_append]
  omega

/-- A chain of one certificate that the trust anchor has issued. -/
theorem validateChain_sign {b : CertificateBody}
    (hvalid : (sign b).notBefore ≤ moment ∧ moment ≤ (sign b).notAfter)
    (hissuer : anchor.subject.agrees b.issuer = true)
    (hnoProxy : (sign b).proxyInfo none = .ok none) :
    validateChain [anchor] [sign b] moment = .ok (Chain.verdict (sign b) [] 0) := by
  have hanchored : Chain.IsAnchored [anchor] moment (sign b) :=
    ⟨anchor, by simp, by decide +kernel, hissuer, isSignedBy b (by decide +kernel)⟩
  have hacceptable : Chain.IsAcceptable [anchor] [sign b] moment 0 := {
    endEntity_lt := by simp
    valid := by simpa using hvalid
    proxy := fun i hi => absurd hi (Nat.not_lt_zero i)
    noProxy := by simpa using hnoProxy
    issued := by simp
    anchored := by simpa using hanchored }
  exact Chain.validateChain_cons_eq_ok_iff.2 ⟨hacceptable, rfl⟩

theorem validateChain_credential :
    validateChain [anchor] credential.chain moment =
      .ok (Chain.verdict credential.leaf [] 0) := by
  have htexts : credential.leaf.issuer.HasOnlyTexts := by decide +kernel
  exact validateChain_sign (by decide +kernel) (Name.agrees_self_iff.2 htexts) (by decide +kernel)

theorem keepsPathLengths_firstStep : KeepsPathLengths [firstStep] := by
  rintro (_ | j) l allowed hl hkind hallowed
  · exact Nat.zero_le _
  · simp at hl

theorem keepsPathLengths_steps : KeepsPathLengths steps := by
  rintro (_ | _ | j) l allowed hl hkind hallowed
  · cases hl
    cases hallowed
    decide
  · exact Nat.zero_le _
  · simp [steps] at hl

theorem exists_validateChain_first : ∃ v, validateChain [anchor] first.chain moment = .ok v :=
  (exists_validateChain_issueAll_iff (by decide +kernel) (by decide +kernel) (by decide +kernel)
    validateChain_credential rfl issueAll_firstStep (by decide +kernel) (by decide +kernel)).2
      keepsPathLengths_firstStep

theorem exists_validateChain_second : ∃ v, validateChain [anchor] second.chain moment = .ok v :=
  (exists_validateChain_issueAll_iff (by decide +kernel) (by decide +kernel) (by decide +kernel)
    validateChain_credential rfl issueAll_steps (by decide +kernel) (by decide +kernel)).2
      keepsPathLengths_steps

end Sample

/-- The chain validator accepts the chain of proxies that were issued one with the other exactly if
under no proxy there are more than it allows. The verdict is that on the chain that was there, with
the proxies taken into account. -/
theorem validateChain_issueAll {E : ValidatedChain}
    (hkey : c.privateKey.isKeyOf c.leaf = true) (hauthority : c.leaf.isAuthority = false)
    (htexts : c.leaf.subject.HasOnlyTexts)
    (hE : validateChain anchors c.chain now = .ok E) (hend : E.endEntity = 0)
    (hissue : c.issueAll levels = .ok d)
    (hread : ∀ x ∈ d.chain.take levels.length, x.publicKey?.isSome = true)
    (hvalid : ∀ x ∈ d.chain.take levels.length, x.notBefore ≤ now ∧ now ≤ x.notAfter) :
    ((∃ v, validateChain anchors d.chain now = .ok v) ↔ KeepsPathLengths levels) ∧
    ∀ v, validateChain anchors d.chain now = .ok v →
      v.endEntity = levels.length ∧
      v.proxyKind = levels.getLast?.map (·.request.kind) ∧
      (v.limited = true ↔ ∃ l ∈ levels, l.request.delegation = .limited) ∧
      v.notAfter = (d.chain.take levels.length).foldl (fun m x => min m x.notAfter)
        E.notAfter := by
  refine ⟨exists_validateChain_issueAll_iff hkey hauthority htexts hE hend hissue hread hvalid,
    fun v hv => ?_⟩
  rw [(delegates_of_issueAll htexts hissue).eq_of_validateChain hE hend hv]
  simp

theorem validateChain_issueAll_sample :
    ∃ v, validateChain [Sample.anchor] Sample.second.chain Sample.moment = .ok v ∧
      v.endEntity = 2 ∧ v.proxyKind = some .legacy ∧ v.limited = true := by
  obtain ⟨haccepted, hverdict⟩ := validateChain_issueAll (by decide +kernel) (by decide +kernel)
    (by decide +kernel) Sample.validateChain_credential rfl Sample.issueAll_steps
    (by decide +kernel) (by decide +kernel)
  obtain ⟨v, hv⟩ := haccepted.2 Sample.keepsPathLengths_steps
  obtain ⟨hend, hkind, hlimited, -⟩ := hverdict v hv
  exact ⟨v, hv, hend, hkind, hlimited.2 ⟨_, List.mem_cons_of_mem _ (List.mem_singleton_self _), rfl⟩⟩

end GridAuthz
