import GridAuthz.Bytes

/-!
# The AES block cipher

Decryption of byte strings that were encrypted in blocks, each added to the encrypted block
before it. The bytes of a block are a square of four columns. They are elements of the field
with 256 elements, in which both the substitution of single bytes and the mixing of columns
are written.
-/

namespace GridAuthz.Aes

/-! ### The field -/

/-- The double of an element of the field. -/
def double (a : UInt8) : UInt8 := if a < 0x80 then a <<< 1 else (a <<< 1) ^^^ 0x1B

/-- The product of two elements, by the bits of the second. -/
def times (a b : UInt8) : UInt8 :=
  ((List.range 8).foldl (fun ((sum, a, b) : UInt8 × UInt8 × UInt8) _ =>
    (if b &&& 1 = 1 then sum ^^^ a else sum, double a, b >>> 1)) (0, a, b)).1

/-- The inverse of an element, which is its power 254; that of zero is zero. -/
def inverse (a : UInt8) : UInt8 := (List.range 253).foldl (fun power _ => times power a) a

/-! ### Substitution -/

/-- A byte rotated to the left. -/
def rotate (a n : UInt8) : UInt8 := (a <<< n) ||| (a >>> (8 - n))

/-- The substitute of each byte: the sum of a constant and of five rotations of its inverse. -/
def substitutes : Array UInt8 :=
  ((List.range 256).map fun n =>
    let a := inverse (UInt8.ofNat n)
    a ^^^ rotate a 1 ^^^ rotate a 2 ^^^ rotate a 3 ^^^ rotate a 4 ^^^ 0x63).toArray

/-- The byte that each byte is the substitute of. -/
def substituted : Array UInt8 :=
  (List.range 256).foldl (fun table n =>
    table.setIfInBounds (substitutes.getD n 0).toNat (UInt8.ofNat n)) (Array.replicate 256 0)

/-- The substitute of a byte. -/
def substitute (a : UInt8) : UInt8 := substitutes.getD a.toNat 0

/-! ### Keys -/

/-- The words of the round keys for a key of `size` words: the first are the key itself, and
each further one is the sum of the one `size` words back and of the last one, which is
changed at regular distances. -/
def keyWords (key : Bytes) : Array Bytes :=
  let size := key.length / 4
  (List.range (3 * size + 28)).foldl (fun ws k =>
    let i := size + k
    let last := ws.getD (i - 1) []
    let change :=
      if i % size = 0 then
        Bytes.xor ((last.drop 1 ++ last.take 1).map substitute)
          [(List.range (i / size - 1)).foldl (fun a _ => double a) 1, 0, 0, 0]
      else if 6 < size ∧ i % size = 4 then last.map substitute
      else last
    ws.push (Bytes.xor (ws.getD (i - size) []) change)) (Bytes.pieces 4 size key).toArray

/-- The round keys for a key, each of a block. -/
def roundKeys (key : Bytes) : List Bytes :=
  let bytes := (keyWords key).toList.flatten
  Bytes.pieces 16 (key.length / 4 + 7) bytes

/-! ### Blocks -/

/-- Rotates the rows of a square back, each by one place more than the row before. -/
def restoreRows (block : Bytes) : Bytes :=
  (List.range 16).map fun i => block.getD ((13 * i) % 16) 0

/-- Takes back the mixing of a column. -/
def restoreColumn (column : Bytes) : Bytes :=
  (List.range 4).map fun i =>
    ([0x0E, 0x0B, 0x0D, 0x09].zipIdx.map fun (factor, k) =>
      times factor (column.getD ((i + k) % 4) 0)).foldl (· ^^^ ·) 0

/-- Takes back the mixing of the columns of a square. -/
def restoreColumns (block : Bytes) : Bytes := (Bytes.pieces 4 4 block).flatMap restoreColumn

/-- Takes back the substitution in a square whose rows were rotated. -/
def restoreBytes (block : Bytes) : Bytes :=
  (restoreRows block).map fun a => substituted.getD a.toNat 0

/-- The block that was encrypted with round keys, given last first. -/
def decryptBlock (keys : List Bytes) (block : Bytes) : Bytes :=
  match keys with
  | [] => block
  | last :: keys =>
    let rounds := keys.dropLast
    let block := rounds.foldl (fun block key =>
      restoreColumns (Bytes.xor (restoreBytes block) key)) (Bytes.xor block last)
    Bytes.xor (restoreBytes block) (keys.getLastD [])

/-! ### Byte strings -/

/-- What was encrypted, given whole blocks and the block in front of the first. -/
def decryptBlocks (keys : List Bytes) (initial : Bytes) (blocks : List Bytes) : Bytes :=
  (List.zipWith (fun before block => Bytes.xor (decryptBlock keys block) before)
    (initial :: blocks) blocks).flatten

/-- Takes the padding off: one to sixteen bytes, each of which is their number. -/
def withoutPadding? (bytes : Bytes) : Option Bytes := do
  let last ← bytes.getLast?
  let count := last.toNat
  let kept := bytes.take (bytes.length - count)
  if 1 ≤ count ∧ count ≤ 16 ∧ bytes = kept ++ List.replicate count last then some kept else none

/-- What was encrypted with a key and the block `initial` in front of the first. The key has 16,
24 or 32 bytes. -/
def decrypt? (key initial bytes : Bytes) : Option Bytes :=
  if bytes.length % 16 = 0 then
    withoutPadding? (decryptBlocks (roundKeys key).reverse initial
      (Bytes.pieces 16 (bytes.length / 16) bytes))
  else none

end GridAuthz.Aes
