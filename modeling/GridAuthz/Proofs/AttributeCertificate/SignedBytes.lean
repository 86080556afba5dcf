import GridAuthz.Proofs.AttributeCertificate.CanonicalForm
import GridAuthz.Proofs.Validation.Checks

/-!
# The bytes that are signed

An attribute certificate is checked against its signature after it has been decoded and written
again. The bytes that are written are those that were read exactly if the encoding is canonical
(`signedBytes_eq_iff_isCanonicalDer`). So another writer may have signed other bytes than the
ones that are checked: the sample is an encoding which says that an extension is not critical,
where nothing needs to be said.
-/

namespace GridAuthz.AttributeCertificate

open Der

/-- The bytes are the canonical encoding of an attribute certificate. -/
def IsCanonicalDer (bytes : Bytes) : Prop := ∀ e ∈ Element.decode? bytes, IsCanonical e

instance (bytes : Bytes) : Decidable (IsCanonicalDer bytes) :=
  inferInstanceAs (Decidable (∀ e ∈ Element.decode? bytes, IsCanonical e))

variable {bytes bytes' : Bytes} {c : AttributeCertificate}

theorem toDer_eq_iff (h : ofDer? bytes = some c) : c.toDer = bytes ↔ IsCanonicalDer bytes := by
  obtain ⟨e, he, hc⟩ := Option.bind_eq_some_iff.1 h
  have hlength := Element.length_content_le_of_decode? he
  rw [IsCanonicalDer, he, toDer, ← Element.encode_of_decode? he, Element.encode_inj,
    writesBackOn e c hlength hc]
  simp

/-- Different canonical encodings are of different attribute certificates. -/
theorem eq_of_ofDer? (h : ofDer? bytes = some c) (h' : ofDer? bytes' = some c)
    (hcanonical : IsCanonicalDer bytes) (hcanonical' : IsCanonicalDer bytes') : bytes' = bytes := by
  rw [← (toDer_eq_iff h).2 hcanonical, ← (toDer_eq_iff h').2 hcanonical']

/-- The part of an encoding that is signed is canonical exactly if the whole is. -/
theorem exists_fields_of_ofDer? (h : ofDer? bytes = some c) :
    ∃ body algorithm signature : Element,
      bytes = (Element.sequence [body, algorithm, signature]).encode ∧
      AcBody.ofElement? body = some c.body ∧ body.content.length ≤ maxLength ∧
      (IsCanonicalDer bytes ↔ AcBody.IsCanonical body) := by
  obtain ⟨e, he, hc⟩ := Option.bind_eq_some_iff.1 h
  obtain ⟨body, algorithm, signature, hfields, hbody, -, -⟩ := exists_fields_of_ofElement? hc
  have hlength := Element.length_content_le_of_fieldsOf?
    (Element.length_content_le_of_decode? he) hfields body (by simp)
  refine ⟨body, algorithm, signature, ?_, hbody, hlength, ?_⟩
  · rw [← Element.eq_sequence_of_sequence? hfields, Element.encode_of_decode? he]
  · simp [IsCanonicalDer, he, IsCanonical, Element.hasFields_iff hfields]

/-- What is written is what was read, and what is checked is what was signed, exactly if the
encoding is canonical. -/
theorem signedBytes_eq_iff_isCanonicalDer (h : ofDer? bytes = some c) :
    (c.toDer = bytes ↔ IsCanonicalDer bytes) ∧
    (IsCanonicalDer bytes →
      ∀ bytes', ofDer? bytes' = some c → IsCanonicalDer bytes' → bytes' = bytes) ∧
    ∃ body algorithm signature : Element,
      bytes = (Element.sequence [body, algorithm, signature]).encode ∧
      AcBody.ofElement? body = some c.body ∧
      (c.signedBytes = body.encode ↔ IsCanonicalDer bytes) ∧
      (IsCanonicalDer bytes → ∀ m : Membership, m.certificate = c → ∀ key : PublicKey,
        m.isSignedWith key = true ↔ ∃ s,
          Signature.of? c.signatureAlgorithm c.signature = some s ∧
          key.verifies body.encode s = true) := by
  obtain ⟨body, algorithm, signature, hbytes, hbody, hlength, hcanonical⟩ :=
    exists_fields_of_ofDer? h
  have hsigned : c.signedBytes = body.encode ↔ IsCanonicalDer bytes := by
    rw [signedBytes, Element.encode_inj, hcanonical, AcBody.writesBackOn body c.body hlength hbody]
  refine ⟨toDer_eq_iff h, fun hc bytes' h' => eq_of_ofDer? h h' hc, body, algorithm, signature,
    hbytes, hbody, hsigned, ?_⟩
  rintro hc m rfl key
  rw [Membership.isSignedWith_iff, ← hsigned.2 hc, signedBytes]

/-- An attribute certificate with an extension that is not critical. -/
def sample : AttributeCertificate where
  body := {
    version := 1
    holder := ⟨none, none⟩
    issuer := .v2 (some []) none
    signature := ⟨Algorithm.sha256WithRsa, none⟩
    serialNumber := ⟨[9], by decide, by decide⟩
    validity := ⟨⟨1990, 1, 1, 0, 0, 0, by decide⟩, ⟨2000, 1, 1, 0, 0, 0, by decide⟩⟩
    attributes := []
    issuerUniqueId := none
    extensions := some [⟨AuthorityCertificates.extensionId, false, [0x30, 0x02, 0x30, 0x00]⟩] }
  signatureAlgorithm := ⟨Algorithm.sha256WithRsa, none⟩
  signature := .ofBytes []

/-- An encoding of the sample that says of the extension that it is not critical. -/
def sampleExplicit : Bytes :=
  let extension : Element := .sequence
    [AuthorityCertificates.extensionId.toElement, .ofBool false, .ofOctets [0x30, 0x02, 0x30, 0x00]]
  let body := sample.body
  let bodyElement : Element := .sequence
    [.ofNat body.version.toNat, body.holder.toElement, body.issuer.toElement,
      body.signature.toElement, body.serialNumber.toElement, body.validity.toElement,
      .sequence [], .sequence [extension]]
  (Element.sequence
    [bodyElement, sample.signatureAlgorithm.toElement, sample.signature.toElement]).encode

theorem signedBytes_eq_iff_isCanonicalDer_sample :
    (ofDer? sampleExplicit = some sample ∧ sample.toDer ≠ sampleExplicit ∧
      ∃ body algorithm signature : Element,
        sampleExplicit = (Element.sequence [body, algorithm, signature]).encode ∧
        sample.signedBytes ≠ body.encode) ∧
    ofDer? sample.toDer = some sample ∧ IsCanonicalDer sample.toDer := by
  have hexplicit : ofDer? sampleExplicit = some sample := by decide +kernel
  have hplain : ofDer? sample.toDer = some sample := by decide +kernel
  have hnot : ¬IsCanonicalDer sampleExplicit := by decide +kernel
  obtain ⟨hwrite, -, body, algorithm, signature, hbytes, -, hsigned, -⟩ :=
    signedBytes_eq_iff_isCanonicalDer hexplicit
  exact ⟨⟨hexplicit, fun heq => hnot (hwrite.1 heq), body, algorithm, signature, hbytes,
    fun heq => hnot (hsigned.1 heq)⟩, hplain, (signedBytes_eq_iff_isCanonicalDer hplain).1.1 rfl⟩

end GridAuthz.AttributeCertificate
