import GridAuthz.Proofs.Credential.Usable
import GridAuthz.Proofs.Pem.Placement

/-!
# Credentials read back

A credential is kept as the text of its leaf, its private key and its further certificates
(`Credential.toPem`). If its key belongs to its leaf, and what its certificates and its key are
written as is read back, the text is read back as the credential (`Credential.readPem_toPem`). The
key is written without encryption, so that no password is asked for. All that holds of a proxy that
was issued.
-/

namespace GridAuthz

open Der

/-! ### Certificates and keys -/

/-- A certificate is read back if its identifiers are ones that can be read. -/
theorem Certificate.ofDer?_toDer {c : Certificate} (hlen : c.toElement.content.length ≤ maxLength)
    (hoids : Oid.AllReadable c.oids) : ofDer? c.toDer = some c := by
  rw [ofDer?, toDer, Element.decode?_encode hlen, Option.bind_some, readsBackOn c hlen]
  exact ⟨hoids, rfl⟩

/-- A key is read back if its public part is within the bounds of one. -/
theorem RsaPrivateKey.ofDer?_toDer {key : RsaPrivateKey}
    (hkey : isRsaKey key.modulus key.exponent = true) (hlen : key.toDer.length ≤ maxLength) :
    ofDer? key.toDer = some key := by
  have hcontent : key.toElement.content.length ≤ maxLength :=
    (Element.length_content_le _).trans hlen
  rw [ofDer?, toDer, Element.decode?_encode hcontent, Option.bind_some, ofElement?, toElement,
    Element.sequence?_sequence hcontent]
  simp [hkey, ofNumbers?, key.isPair]

/-! ### Blocks -/

namespace Credential

variable {c : Credential}

/-- The blocks of a credential: its leaf, its key, and its further certificates. -/
def blocks (c : Credential) : List PemBlock :=
  c.leaf.toBlock :: ⟨CredentialText.rsaKeyLabel, c.privateKey.toDer⟩ ::
    c.issuers.map Certificate.toBlock

theorem read_toPem_blocks (c : Credential) : Pem.read c.toPem = .ok c.blocks := by
  refine Pem.read_write fun block hblock => ?_
  rcases List.mem_cons.1 hblock with rfl | hblock
  · exact (by decide : Pem.IsWritable ⟨Certificate.pemLabel, []⟩)
  rcases List.mem_cons.1 hblock with rfl | hblock
  · exact (by decide : Pem.IsWritable ⟨CredentialText.rsaKeyLabel, []⟩)
  · obtain ⟨x, -, rfl⟩ := List.mem_map.1 hblock
    exact (by decide : Pem.IsWritable ⟨Certificate.pemLabel, []⟩)

/-- The blocks for certificates are those of the chain. -/
theorem filter_blocks (c : Credential) :
    c.blocks.filter (·.label = Certificate.pemLabel) = c.chain.map Certificate.toBlock := by
  have hkey : CredentialText.rsaKeyLabel ≠ Certificate.pemLabel := by decide
  have hissuers : (c.issuers.map Certificate.toBlock).filter (·.label = Certificate.pemLabel) =
      c.issuers.map Certificate.toBlock :=
    List.filter_eq_self.2 (by simp [Certificate.toBlock])
  rw [blocks, List.filter_cons_of_pos (by simp [Certificate.toBlock]),
    List.filter_cons_of_neg (by simpa using hkey), hissuers, chain, List.map_cons]

theorem ofBlocks?_blocks (h : ∀ x ∈ c.chain, Certificate.ofDer? x.toDer = some x) :
    Certificate.ofBlocks? c.blocks = some c.chain := by
  rw [Certificate.ofBlocks?, filter_blocks, mapM_eq_some_iff_forall₂, List.forall₂_map_left_iff]
  exact List.forall₂_same.2 h

/-- The first block for a key is that of the private key. -/
theorem find?_blocks (c : Credential) :
    c.blocks.find? (fun block => CredentialText.isKeyLabel block.label) =
      some ⟨CredentialText.rsaKeyLabel, c.privateKey.toDer⟩ := by
  have hleaf : CredentialText.isKeyLabel Certificate.pemLabel = false := by decide +kernel
  have hkey : CredentialText.isKeyLabel CredentialText.rsaKeyLabel = true := by decide +kernel
  rw [blocks, List.find?_cons_of_neg (by simp [Certificate.toBlock, hleaf])]
  exact List.find?_cons_of_pos hkey

/-- The text of a credential holds its chain and its key, which is not encrypted. -/
theorem read_toPem (hcertificates : ∀ x ∈ c.chain, Certificate.ofDer? x.toDer = some x)
    (hkey : RsaPrivateKey.ofDer? c.privateKey.toDer = some c.privateKey) :
    CredentialText.read c.toPem c.toPem = .ok (.clear c.chain c.privateKey) := by
  have hchain : Certificate.readPem c.toPem = .ok c.chain :=
    Certificate.readPem_eq_ok_iff.2 ⟨c.blocks, read_toPem_blocks c, ofBlocks?_blocks hcertificates⟩
  have hblock : CredentialText.ofBlock c.chain ⟨CredentialText.rsaKeyLabel, c.privateKey.toDer⟩ =
      .ok (.clear c.chain c.privateKey) := by
    have hlabel : CredentialText.rsaKeyLabel ≠ CredentialText.keyLabel := by decide
    rw [CredentialText.ofBlock, if_neg hlabel, if_pos rfl, hkey]
  rw [CredentialText.read, hchain, read_toPem_blocks]
  simp only [Except.mapError, bind, Except.bind, find?_blocks, hblock]

/-- The text of a credential is read back as the credential, whatever the password. -/
theorem readPem_toPem (hcertificates : ∀ x ∈ c.chain, Certificate.ofDer? x.toDer = some x)
    (hkey : RsaPrivateKey.ofDer? c.privateKey.toDer = some c.privateKey)
    (hleaf : c.privateKey.isKeyOf c.leaf = true) (password : Option String) :
    readPem c.toPem c.toPem password = .ok c := by
  rw [readPem, read_toPem hcertificates hkey]
  exact ofChain_eq_ok_iff.2 ⟨rfl, rfl, hleaf⟩

end Credential

/-! ### Proxies -/

/-- The text of a proxy is read back as the proxy, with its key and with the chain of its issuer behind
it, and no password is asked for. -/
theorem ProxyRequest.readPem_toPem_of_issue {r : ProxyRequest} {issuer c : Credential}
    {now : Duration} {key : RsaPrivateKey} {serial : UInt32}
    (h : r.issue issuer now key serial = .ok c) (hread : c.leaf.publicKey?.isSome = true)
    (hcertificates : ∀ x ∈ c.chain, Certificate.ofDer? x.toDer = some x)
    (hkey : RsaPrivateKey.ofDer? key.toDer = some key) :
    c.privateKey = key ∧ c.chain = c.leaf :: issuer.chain ∧
      CredentialText.read c.toPem c.toPem = .ok (.clear c.chain key) ∧
      ∀ password, Credential.readPem c.toPem c.toPem password = .ok c := by
  have hissued := issued_of_issue h
  have hchain : c.chain = c.leaf :: issuer.chain := by rw [Credential.chain, hissued.issuers_eq]
  rw [← hissued.privateKey_eq] at hkey ⊢
  exact ⟨rfl, hchain, Credential.read_toPem hcertificates hkey,
    Credential.readPem_toPem hcertificates hkey (hissued.isKeyOf hread)⟩

theorem Sample.ofDer?_toDer_sign {b : CertificateBody} (hlen : b.toElement.encode.length ≤ 4096)
    (hoids : Oid.AllReadable b.oids) : Certificate.ofDer? (sign b).toDer = some (sign b) := by
  have halgorithm : Oid.AllReadable ProxyRequest.signatureAlgorithm.oids := by decide
  refine Certificate.ofDer?_toDer ((length_signed_le hlen).trans ?_)
    (Oid.allReadable_append.2 ⟨hoids, halgorithm⟩)
  rw [maxLength]
  omega

/-- A proxy that the holder of a certificate has issued. -/
theorem ProxyRequest.readPem_toPem_of_issue_first :
    Sample.first.chain = [Sample.first.leaf, Sample.credential.leaf] ∧
      ∀ password, Credential.readPem Sample.first.toPem Sample.first.toPem password =
        .ok Sample.first := by
  have hcertificates : ∀ x ∈ Sample.first.chain, Certificate.ofDer? x.toDer = some x := by
    intro x hx
    rcases List.mem_pair.1 hx with rfl | rfl
    · exact Sample.ofDer?_toDer_sign (by decide +kernel) (by decide +kernel)
    · exact Sample.ofDer?_toDer_sign (by decide +kernel) (by decide +kernel)
  have hkey : RsaPrivateKey.ofDer? RsaPrivateKey.mersenne.toDer = some .mersenne :=
    RsaPrivateKey.ofDer?_toDer (by decide +kernel) (by decide +kernel)
  obtain ⟨-, hchain, -, hread⟩ :=
    ProxyRequest.readPem_toPem_of_issue Sample.issue_first (by decide +kernel) hcertificates hkey
  exact ⟨hchain, hread⟩

end GridAuthz
