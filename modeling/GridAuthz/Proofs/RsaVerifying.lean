import GridAuthz.Proofs.ModularArithmetic
import GridAuthz.Signature

/-!
# What verifies under an RSA key

A signature verifies if its power is the one padded encoding that there is for the digest of the
message (`RsaPublicKey.verifies_iff`). This encoding, EMSA-PKCS1-v1_5 of RFC 8017, names the digest,
so it cannot be that of another one (`RsaDigest.IsEncoding.unique`). What is named three times, by the
algorithm of the signature, by the digest that is computed and in the encoding, is therefore the same
each time (`PublicKey.accepts_rsa`).
-/

namespace GridAuthz

namespace RsaDigest

/-- The identifier of the digest by itself. -/
def oid : RsaDigest → Oid
  | sha256 => ⟨[0x60, 0x86, 0x48, 0x01, 0x65, 0x03, 0x04, 0x02, 0x01], rfl⟩
  | sha384 => ⟨[0x60, 0x86, 0x48, 0x01, 0x65, 0x03, 0x04, 0x02, 0x02], rfl⟩
  | sha512 => ⟨[0x60, 0x86, 0x48, 0x01, 0x65, 0x03, 0x04, 0x02, 0x03], rfl⟩

/-- The identifier of RSA signatures over the digest. -/
def signatureOid : RsaDigest → Oid
  | sha256 => Algorithm.sha256WithRsa
  | sha384 => Algorithm.sha384WithRsa
  | sha512 => Algorithm.sha512WithRsa

example : [sha256, sha384, sha512].map (fun d => (d.signatureOid.toDotted, d.oid.toDotted)) =
    [("1.2.840.113549.1.1.11", "2.16.840.1.101.3.4.2.1"),
      ("1.2.840.113549.1.1.12", "2.16.840.1.101.3.4.2.2"),
      ("1.2.840.113549.1.1.13", "2.16.840.1.101.3.4.2.3")] := by decide +kernel

/-- The `DigestInfo` of a message: the algorithm of the digest, with NULL as its parameters, and the
digest. -/
def digestInfo (d : RsaDigest) (message : Bytes) : Der.Element :=
  .sequence [AlgorithmIdentifier.toElement ⟨d.oid, some ⟨.null, []⟩⟩, .ofOctets (d.digest message)]

/-- The bytes encode a message for signing: `00 01`, at least eight times `FF`, `00` and the encoding
of the `DigestInfo`, with nothing behind it. -/
def IsEncoding (d : RsaDigest) (message encoding : Bytes) : Prop :=
  ∃ count, 8 ≤ count ∧ encoding =
    0x00 :: 0x01 :: (List.replicate count 0xFF ++ 0x00 :: (d.digestInfo message).encode)

theorem named_eq (d : RsaDigest) (message : Bytes) :
    d.named message = (d.digestInfo message).encode := by
  cases d <;>
    simp [named, header, digest, digestInfo, oid, AlgorithmIdentifier.toElement, Oid.toElement,
      Der.Element.ofOctets, Der.Element.sequence, Der.Element.encodeAll, Der.Element.encode,
      Der.encodeLength, Der.Tag.sequence, Der.Tag.objectIdentifier, Der.Tag.null,
      Der.Tag.octetString, Sha2.length_sha256, Sha2.length_sha384, Sha2.length_sha512]

theorem padded?_eq_some_iff {d : RsaDigest} {size : Nat} {message encoding : Bytes} :
    d.padded? size message = some encoding ↔
      encoding.length = size ∧ d.IsEncoding message encoding := by
  rw [padded?, IsEncoding, ← named_eq, Option.ite_none_right_eq_some, Option.some.injEq]
  constructor
  · rintro ⟨hroom, rfl⟩
    refine ⟨?_, size - (d.named message).length - 3, by omega, rfl⟩
    simp only [List.length_cons, List.length_append, List.length_replicate]
    omega
  · rintro ⟨hlength, count, hcount, rfl⟩
    simp only [List.length_cons, List.length_append, List.length_replicate] at hlength
    have hcount' : size - (d.named message).length - 3 = count := by omega
    rw [hcount']
    exact ⟨by omega, rfl⟩

/-- An encoding names its digest and has it at its end. -/
theorem IsEncoding.unique {d d' : RsaDigest} {message message' encoding : Bytes}
    (h : d.IsEncoding message encoding) (h' : d'.IsEncoding message' encoding) :
    d = d' ∧ d.digest message = d'.digest message' := by
  have hdrop : ∀ (count : Nat) (bs : Bytes),
      (List.replicate count 0xFF ++ 0x00 :: bs).dropWhile (· = 0xFF) = 0x00 :: bs := by
    intro count bs
    rw [List.dropWhile_append_of_pos fun b hb => by simpa using List.eq_of_mem_replicate hb]
    rfl
  obtain ⟨count, -, rfl⟩ := h
  obtain ⟨count', -, heq⟩ := h'
  have hinfo := congrArg (List.dropWhile (· = 0xFF)) (List.cons.inj (List.cons.inj heq).2).2
  rw [hdrop, hdrop, List.cons.injEq, ← named_eq, ← named_eq, named, named] at hinfo
  have hname : d = d' := by
    cases d <;> cases d' <;> simp [header] at hinfo ⊢
  subst hname
  exact ⟨rfl, List.append_cancel_left hinfo.2⟩

end RsaDigest

/-- A signature verifies if it is as long as the modulus and, as a number, below it, and its power
encodes the message. -/
theorem RsaPublicKey.verifies_iff {k : RsaPublicKey} {d : RsaDigest} {message signature : Bytes} :
    k.verifies d message signature = true ↔
      signature.length = k.size ∧ Bytes.toNat signature < k.modulus ∧
        d.IsEncoding message
          (Bytes.ofNatWidth k.size (Bytes.toNat signature ^ k.exponent % k.modulus)) := by
  simp only [verifies, Bool.and_eq_true, decide_eq_true_eq, RsaDigest.padded?_eq_some_iff,
    Bytes.length_ofNatWidth, true_and, Modular.powMod_eq, and_assoc]

theorem Signature.rsaDigest?_eq_some_iff {algorithm : Oid} {d : RsaDigest} :
    rsaDigest? algorithm = some d ↔ algorithm = d.signatureOid := by
  constructor
  · intro h
    rw [rsaDigest?] at h
    split_ifs at h <;> cases h <;> assumption
  · rintro rfl
    cases d <;> rfl

namespace PublicKey

/-- What a string of bits holds for an algorithm is a signature of the message by the holder of the
key. -/
def Accepts (key : PublicKey) (algorithm : AlgorithmIdentifier) (bits : Der.BitString)
    (message : Bytes) : Prop :=
  ∃ signature, Signature.of? algorithm bits = some signature ∧
    key.verifies message signature = true

variable {k : RsaPublicKey} {algorithm : AlgorithmIdentifier} {bits : Der.BitString}
  {message : Bytes}

theorem signatureOid_ne (d : RsaDigest) : d.signatureOid ≠ Algorithm.ecdsaWithSha256 := by
  cases d <;> decide

theorem accepts_rsa_iff : (rsa k).Accepts algorithm bits message ↔
    ∃ d : RsaDigest, algorithm.algorithm = d.signatureOid ∧ bits.unused = 0 ∧
      k.verifies d message bits.bytes = true := by
  simp only [Accepts, Signature.of?, Der.BitString.octets?, Option.bind_eq_bind,
    Option.bind_eq_some_iff, Option.ite_none_right_eq_some, Option.some.injEq]
  constructor
  · rintro ⟨signature, ⟨_, ⟨hunused, rfl⟩, hof⟩, hverifies⟩
    split_ifs at hof
    · obtain ⟨_, -, rfl⟩ := Option.map_eq_some_iff.1 hof
      cases hverifies
    · obtain ⟨d, hd, rfl⟩ := Option.map_eq_some_iff.1 hof
      exact ⟨d, Signature.rsaDigest?_eq_some_iff.1 hd, hunused, hverifies⟩
  · rintro ⟨d, halgorithm, hunused, hverifies⟩
    refine ⟨.rsa d bits.bytes, ⟨bits.bytes, ⟨hunused, rfl⟩, ?_⟩, hverifies⟩
    rw [if_neg (halgorithm ▸ signatureOid_ne d), Signature.rsaDigest?_eq_some_iff.2 halgorithm,
      Option.map_some]

theorem algorithm_of_accepts_ecdsa {point : P256.Point}
    (h : (ecdsa point).Accepts algorithm bits message) :
    algorithm.algorithm = Algorithm.ecdsaWithSha256 := by
  obtain ⟨signature, hof, hverifies⟩ := h
  rw [Signature.of?, Option.bind_eq_bind, Option.bind_eq_some_iff] at hof
  obtain ⟨bytes, -, hof⟩ := hof
  split_ifs at hof with halgorithm
  · exact halgorithm
  · obtain ⟨d, -, rfl⟩ := Option.map_eq_some_iff.1 hof
    cases hverifies

/-- A string of bits is a signature by the holder of an RSA key exactly if

* the algorithm is RSA with one of the three digests,
* all its bits count, and it has as many bytes as the modulus and a value below it, and
* its power with respect to the modulus, written with as many bytes, is the encoding of the message
  for that digest.

So it is one for one of the algorithms only, whatever the message, and under a key of the other kind
nothing verifies. -/
theorem accepts_rsa (k : RsaPublicKey) (algorithm : AlgorithmIdentifier) (bits : Der.BitString)
    (message : Bytes) :
    ((rsa k).Accepts algorithm bits message ↔
      ∃ d : RsaDigest, algorithm.algorithm = d.signatureOid ∧ bits.unused = 0 ∧
        bits.bytes.length = k.size ∧ Bytes.toNat bits.bytes < k.modulus ∧
        d.IsEncoding message
          (Bytes.ofNatWidth k.size (Bytes.toNat bits.bytes ^ k.exponent % k.modulus))) ∧
    (∀ algorithm' message', (rsa k).Accepts algorithm bits message →
      (rsa k).Accepts algorithm' bits message' → algorithm'.algorithm = algorithm.algorithm) ∧
    (algorithm.algorithm = Algorithm.ecdsaWithSha256 → ¬(rsa k).Accepts algorithm bits message) ∧
    ∀ point, (∃ d : RsaDigest, algorithm.algorithm = d.signatureOid) →
      ¬(ecdsa point).Accepts algorithm bits message := by
  refine ⟨?_, fun algorithm' message' h h' => ?_, fun hecdsa h => ?_, ?_⟩
  · simp only [accepts_rsa_iff, RsaPublicKey.verifies_iff]
  · obtain ⟨d, halgorithm, -, hverifies⟩ := accepts_rsa_iff.1 h
    obtain ⟨d', halgorithm', -, hverifies'⟩ := accepts_rsa_iff.1 h'
    obtain ⟨-, -, hencoding⟩ := RsaPublicKey.verifies_iff.1 hverifies
    obtain ⟨-, -, hencoding'⟩ := RsaPublicKey.verifies_iff.1 hverifies'
    obtain ⟨rfl, -⟩ := hencoding.unique hencoding'
    rw [halgorithm, halgorithm']
  · obtain ⟨d, halgorithm, -⟩ := accepts_rsa_iff.1 h
    exact signatureOid_ne d (halgorithm.symm.trans hecdsa)
  · rintro point ⟨d, halgorithm⟩ h
    exact signatureOid_ne d (halgorithm.symm.trans (algorithm_of_accepts_ecdsa h))

end PublicKey

end GridAuthz
