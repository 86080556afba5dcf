import GridAuthz.Crypto.Hmac

/-!
# Keys from passwords

Two functions that make a key of any length from a password and a salt. `pbkdf2` is slow, as
it iterates a message authentication code. `scrypt` also needs memory: it fills a table with
the states of a walk, and then walks on, visiting entries of the table in an order that only
the walk itself shows.
-/

namespace GridAuthz.KeyDerivation

/-! ### Iterated codes -/

/-- One block of a derived key: the sum of `iterations` codes, each of the one before. -/
def block (d : HmacDigest) (password salt : Bytes) (iterations index : Nat) : Bytes :=
  let first := d.mac password (salt ++ Bytes.ofNatWidth 4 index)
  ((List.range (iterations - 1)).foldl (fun (last, sum) _ =>
    let next := d.mac password last
    (next, Bytes.xor sum next)) (first, first)).2

/-- The key of `size` bytes. There is at least one iteration. -/
def pbkdf2 (d : HmacDigest) (password salt : Bytes) (iterations size : Nat) : Bytes :=
  ((List.range ((size + d.size - 1) / d.size)).flatMap fun i =>
    block d password salt iterations (i + 1)).take size

/-! ### Memory -/

/-- A sequence of words. -/
abbrev Words := Array UInt32

/-- The words of a byte string, low bytes first. -/
def words (bytes : Bytes) : Words :=
  ((Bytes.pieces 4 (bytes.length / 4) bytes).map fun piece =>
    UInt32.ofNat (Bytes.toNat piece.reverse)).toArray

/-- The bytes of a sequence of words, low bytes first. -/
def bytes (ws : Words) : Bytes :=
  ws.toList.flatMap fun w => (Bytes.ofNatWidth 4 w.toNat).reverse

/-- The sum of two sequences of words, bit by bit without carry. -/
def sum (a b : Words) : Words := Array.zipWith (· ^^^ ·) a b

/-- A word rotated to the left. -/
def rotate (x n : UInt32) : UInt32 := (x <<< n) ||| (x >>> (32 - n))

/-- Mixes the words at four places of a square. -/
def quarter (x : Words) (a b c d : Nat) : Words :=
  let word (x : Words) (i : Nat) : UInt32 := x.getD i 0
  let step (x : Words) (i j k : Nat) (turn : UInt32) : Words :=
    x.setIfInBounds i (word x i ^^^ rotate (word x j + word x k) turn)
  let x := step x b a d 7
  let x := step x c b a 9
  let x := step x d c b 13
  step x a d c 18

/-- Mixes the columns of a square of sixteen words, and then its rows. -/
def doubleRound (x : Words) : Words :=
  let x := quarter x 0 4 8 12
  let x := quarter x 5 9 13 1
  let x := quarter x 10 14 2 6
  let x := quarter x 15 3 7 11
  let x := quarter x 0 1 2 3
  let x := quarter x 5 6 7 4
  let x := quarter x 10 11 8 9
  quarter x 15 12 13 14

/-- The Salsa20 function with eight rounds. -/
def salsa (x : Words) : Words :=
  Array.zipWith (· + ·) x (doubleRound (doubleRound (doubleRound (doubleRound x))))

/-- Mixes a sequence of `2 * blockSize` squares: each is added to the one before and mixed. The
results at even places come first. -/
def mixBlocks (blockSize : Nat) (x : Words) : Words :=
  let square (i : Nat) : Words := x.extract (16 * i) (16 * (i + 1))
  let mixed := ((List.range (2 * blockSize)).foldl
    (fun ((last, done) : Words × Array Words) i =>
      let next := salsa (sum last (square i))
      (next, done.push next)) (square (2 * blockSize - 1), #[])).2
  let places := (List.range blockSize).map (2 * ·) ++
    (List.range blockSize).map (2 * · + 1)
  places.foldl (fun ws i => ws ++ mixed.getD i #[]) #[]

/-- Fills a table with `2 ^ logCost` states, and then visits as many entries: the place of each
is in the first words of the last square. -/
def mixTable (blockSize logCost : Nat) (x : Words) : Words :=
  let cost := 1 <<< logCost
  let (x, table) := (List.range cost).foldl
    (fun ((x, table) : Words × Array Words) _ => (mixBlocks blockSize x, table.push x)) (x, #[])
  let place (x : Words) : Nat :=
    let i := 16 * (2 * blockSize - 1)
    ((x.getD i 0).toNat + UInt32.size * (x.getD (i + 1) 0).toNat) % cost
  (List.range cost).foldl
    (fun x _ => mixBlocks blockSize (sum x (table.getD (place x) #[]))) x

/-- The key of `size` bytes. -/
def scrypt (password salt : Bytes) (logCost blockSize parallel size : Nat) : Bytes :=
  let width := 128 * blockSize
  let start := pbkdf2 .sha256 password salt 1 (parallel * width)
  let mixed := (Bytes.pieces width parallel start).flatMap fun piece =>
    bytes (mixTable blockSize logCost (words piece))
  pbkdf2 .sha256 password mixed 1 size

end GridAuthz.KeyDerivation
