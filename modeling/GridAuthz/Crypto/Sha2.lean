import GridAuthz.Bytes

/-!
# The SHA-2 digests

SHA-256 and SHA-512 are one construction on words of 32 and of 64 bits; SHA-224 and SHA-384
start from other words and give a shorter digest. The constants of the narrow digests are
halves of those of the wide ones.
-/

namespace GridAuthz.Sha2

/-! ### Constants -/

/-- The first 64 bits of the fractional parts of the cube roots of the first 80 primes. -/
def cubeRoots : List UInt64 := [
  0x428A2F98D728AE22, 0x7137449123EF65CD, 0xB5C0FBCFEC4D3B2F, 0xE9B5DBA58189DBBC,
  0x3956C25BF348B538, 0x59F111F1B605D019, 0x923F82A4AF194F9B, 0xAB1C5ED5DA6D8118,
  0xD807AA98A3030242, 0x12835B0145706FBE, 0x243185BE4EE4B28C, 0x550C7DC3D5FFB4E2,
  0x72BE5D74F27B896F, 0x80DEB1FE3B1696B1, 0x9BDC06A725C71235, 0xC19BF174CF692694,
  0xE49B69C19EF14AD2, 0xEFBE4786384F25E3, 0x0FC19DC68B8CD5B5, 0x240CA1CC77AC9C65,
  0x2DE92C6F592B0275, 0x4A7484AA6EA6E483, 0x5CB0A9DCBD41FBD4, 0x76F988DA831153B5,
  0x983E5152EE66DFAB, 0xA831C66D2DB43210, 0xB00327C898FB213F, 0xBF597FC7BEEF0EE4,
  0xC6E00BF33DA88FC2, 0xD5A79147930AA725, 0x06CA6351E003826F, 0x142929670A0E6E70,
  0x27B70A8546D22FFC, 0x2E1B21385C26C926, 0x4D2C6DFC5AC42AED, 0x53380D139D95B3DF,
  0x650A73548BAF63DE, 0x766A0ABB3C77B2A8, 0x81C2C92E47EDAEE6, 0x92722C851482353B,
  0xA2BFE8A14CF10364, 0xA81A664BBC423001, 0xC24B8B70D0F89791, 0xC76C51A30654BE30,
  0xD192E819D6EF5218, 0xD69906245565A910, 0xF40E35855771202A, 0x106AA07032BBD1B8,
  0x19A4C116B8D2D0C8, 0x1E376C085141AB53, 0x2748774CDF8EEB99, 0x34B0BCB5E19B48A8,
  0x391C0CB3C5C95A63, 0x4ED8AA4AE3418ACB, 0x5B9CCA4F7763E373, 0x682E6FF3D6B2B8A3,
  0x748F82EE5DEFB2FC, 0x78A5636F43172F60, 0x84C87814A1F0AB72, 0x8CC702081A6439EC,
  0x90BEFFFA23631E28, 0xA4506CEBDE82BDE9, 0xBEF9A3F7B2C67915, 0xC67178F2E372532B,
  0xCA273ECEEA26619C, 0xD186B8C721C0C207, 0xEADA7DD6CDE0EB1E, 0xF57D4F7FEE6ED178,
  0x06F067AA72176FBA, 0x0A637DC5A2C898A6, 0x113F9804BEF90DAE, 0x1B710B35131C471B,
  0x28DB77F523047D84, 0x32CAAB7B40C72493, 0x3C9EBE0A15C9BEBC, 0x431D67C49C100D4C,
  0x4CC5D4BECB3E42B6, 0x597F299CFC657E2A, 0x5FCB6FAB3AD6FAEC, 0x6C44198C4A475817]

/-- The first 64 bits of the fractional parts of the square roots of the first 8 primes. -/
def squareRoots : List UInt64 := [
  0x6A09E667F3BCC908, 0xBB67AE8584CAA73B, 0x3C6EF372FE94F82B, 0xA54FF53A5F1D36F1,
  0x510E527FADE682D1, 0x9B05688C2B3E6C1F, 0x1F83D9ABFB41BD6B, 0x5BE0CD19137E2179]

/-- The first 64 bits of the fractional parts of the square roots of the 9th to the 16th
prime. -/
def laterSquareRoots : List UInt64 := [
  0xCBBB9D5DC1059ED8, 0x629A292A367CD507, 0x9159015A3070DD17, 0x152FECD8F70E5939,
  0x67332667FFC00B31, 0x8EB44A8768581511, 0xDB0C2E0D64F98FA7, 0x47B5481DBEFA4FA4]

/-! ### The construction -/

/-- What distinguishes the digests on words of one width. -/
structure Design (W : Type) where
  /-- The bytes of a word. -/
  wordBytes : Nat
  /-- A number as a word, its high bits dropped. -/
  ofNat : Nat → W
  /-- A word as a number. -/
  toNat : W → Nat
  /-- The mixing of the first word of a state. -/
  bigSigma₀ : W → W
  /-- The mixing of the fifth word of a state. -/
  bigSigma₁ : W → W
  /-- The mixing of the word 15 places back in the schedule. -/
  smallSigma₀ : W → W
  /-- The mixing of the word 2 places back in the schedule. -/
  smallSigma₁ : W → W
  /-- The constants of the rounds. -/
  constants : List W

/-- The eight words that a digest is computed in. -/
structure State (W : Type) where
  /-- The first word. -/
  a : W
  /-- The second word. -/
  b : W
  /-- The third word. -/
  c : W
  /-- The fourth word. -/
  d : W
  /-- The fifth word. -/
  e : W
  /-- The sixth word. -/
  f : W
  /-- The seventh word. -/
  g : W
  /-- The eighth word. -/
  h : W

section

variable {W : Type} [Add W] [AndOp W] [XorOp W] [Complement W]

/-- One round, with the word of the schedule and its constant already added up. -/
def round (design : Design W) (s : State W) (word : W) : State W :=
  let choice := (s.e &&& s.f) ^^^ (~~~ s.e &&& s.g)
  let majority := (s.a &&& s.b) ^^^ (s.a &&& s.c) ^^^ (s.b &&& s.c)
  let t := s.h + design.bigSigma₁ s.e + choice + word
  ⟨t + design.bigSigma₀ s.a + majority, s.a, s.b, s.c, s.d + t, s.e, s.f, s.g⟩

/-- The words of the schedule: those of the block, continued up to `count` words. -/
def schedule (design : Design W) (block : Array W) (count : Nat) : Array W :=
  (List.range (count - block.size)).foldl (fun words _ =>
    let at' (back : Nat) : W := words.getD (words.size - back) (design.ofNat 0)
    words.push (design.smallSigma₁ (at' 2) + at' 7 + design.smallSigma₀ (at' 15) + at' 16)) block

/-- A state after one block. -/
def compress (design : Design W) (s : State W) (block : List W) : State W :=
  let words := schedule design block.toArray design.constants.length
  let t := (design.constants.zip words.toList).foldl (fun t (k, w) => round design t (k + w)) s
  ⟨s.a + t.a, s.b + t.b, s.c + t.c, s.d + t.d, s.e + t.e, s.f + t.f, s.g + t.g, s.h + t.h⟩

end

/-- A message with a one bit, zeros and its length in bits, filled up to whole blocks. -/
def padded (wordBytes : Nat) (message : Bytes) : Bytes :=
  let blockBytes := 16 * wordBytes
  let used := (message.length + 1 + 2 * wordBytes) % blockBytes
  message ++ 0x80 :: (List.replicate ((blockBytes - used) % blockBytes) 0 ++
    Bytes.ofNatWidth (2 * wordBytes) (8 * message.length))

/-- The state after a whole message. -/
def run {W : Type} [Add W] [AndOp W] [XorOp W] [Complement W] (design : Design W)
    (initial : State W) (message : Bytes) : State W :=
  let bytes := padded design.wordBytes message
  let words := (Bytes.pieces design.wordBytes (bytes.length / design.wordBytes) bytes).map
    fun word => design.ofNat (Bytes.toNat word)
  (Bytes.pieces 16 (words.length / 16) words).foldl (compress design) initial

/-- The bytes of the words of a state. -/
def State.toBytes {W : Type} (design : Design W) (s : State W) : Bytes :=
  [s.a, s.b, s.c, s.d, s.e, s.f, s.g, s.h].flatMap fun w =>
    Bytes.ofNatWidth design.wordBytes (design.toNat w)

/-- The state with the given words. -/
def State.ofList {W : Type} (default : W) (words : List W) : State W :=
  let word (i : Nat) : W := words.getD i default
  ⟨word 0, word 1, word 2, word 3, word 4, word 5, word 6, word 7⟩

/-! ### Words of 32 bits -/

/-- A word rotated to the right. -/
def rotate32 (x : UInt32) (n : UInt32) : UInt32 := (x >>> n) ||| (x <<< (32 - n))

/-- The design of SHA-256 and SHA-224. -/
def narrow : Design UInt32 where
  wordBytes := 4
  ofNat := UInt32.ofNat
  toNat := UInt32.toNat
  bigSigma₀ x := rotate32 x 2 ^^^ rotate32 x 13 ^^^ rotate32 x 22
  bigSigma₁ x := rotate32 x 6 ^^^ rotate32 x 11 ^^^ rotate32 x 25
  smallSigma₀ x := rotate32 x 7 ^^^ rotate32 x 18 ^^^ (x >>> 3)
  smallSigma₁ x := rotate32 x 17 ^^^ rotate32 x 19 ^^^ (x >>> 10)
  constants := (cubeRoots.take 64).map fun (k : UInt64) => (k >>> 32).toUInt32

/-- The digest SHA-256, of 32 bytes. -/
def sha256 (message : Bytes) : Bytes :=
  let initial := squareRoots.map fun (h : UInt64) => (h >>> 32).toUInt32
  (run narrow (State.ofList 0 initial) message).toBytes narrow

/-- The digest SHA-224, of 28 bytes. -/
def sha224 (message : Bytes) : Bytes :=
  ((run narrow (State.ofList 0 (laterSquareRoots.map UInt64.toUInt32)) message).toBytes
    narrow).take 28

/-! ### Words of 64 bits -/

/-- A word rotated to the right. -/
def rotate64 (x : UInt64) (n : UInt64) : UInt64 := (x >>> n) ||| (x <<< (64 - n))

/-- The design of SHA-512 and SHA-384. -/
def wide : Design UInt64 where
  wordBytes := 8
  ofNat := UInt64.ofNat
  toNat := UInt64.toNat
  bigSigma₀ x := rotate64 x 28 ^^^ rotate64 x 34 ^^^ rotate64 x 39
  bigSigma₁ x := rotate64 x 14 ^^^ rotate64 x 18 ^^^ rotate64 x 41
  smallSigma₀ x := rotate64 x 1 ^^^ rotate64 x 8 ^^^ (x >>> 7)
  smallSigma₁ x := rotate64 x 19 ^^^ rotate64 x 61 ^^^ (x >>> 6)
  constants := cubeRoots

/-- The digest SHA-512, of 64 bytes. -/
def sha512 (message : Bytes) : Bytes :=
  (run wide (State.ofList 0 squareRoots) message).toBytes wide

/-- The digest SHA-384, of 48 bytes. -/
def sha384 (message : Bytes) : Bytes :=
  ((run wide (State.ofList 0 laterSquareRoots) message).toBytes wide).take 48

/-! ### Lengths -/

theorem State.length_toBytes {W : Type} (design : Design W) (s : State W) :
    (s.toBytes design).length = 8 * design.wordBytes := by
  simp [State.toBytes]
  omega

theorem length_sha256 (message : Bytes) : (sha256 message).length = 32 :=
  State.length_toBytes narrow _

theorem length_sha384 (message : Bytes) : (sha384 message).length = 48 := by
  simp [sha384, State.length_toBytes, wide]

theorem length_sha512 (message : Bytes) : (sha512 message).length = 64 :=
  State.length_toBytes wide _

end GridAuthz.Sha2
