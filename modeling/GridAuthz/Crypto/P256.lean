import GridAuthz.Crypto.Modular
import GridAuthz.Crypto.Sha2
import GridAuthz.Der.Primitive

/-!
# Signatures on the curve P-256

Points of the curve `y² = x³ - 3x + b` over the field with `fieldPrime` elements, their
addition, and the verification of signatures with SHA-256.
-/

namespace GridAuthz.P256

/-! ### Parameters -/

/-- The number of elements of the field. -/
def fieldPrime : Nat := 0xFFFFFFFF00000001000000000000000000000000FFFFFFFFFFFFFFFFFFFFFFFF

/-- The constant term of the curve. -/
def curveB : Nat := 0x5AC635D8AA3A93E7B3EBBD55769886BC651D06B0CC53B0F63BCE3C3E27D2604B

/-- The number of points, a prime. -/
def order : Nat := 0xFFFFFFFF00000000FFFFFFFFFFFFFFFFBCE6FAADA7179E84F3B9CAC2FC632551

/-- The value that `y²` has at a given `x`. -/
def curveValue (x : Nat) : Nat := (x * x * x + (fieldPrime - 3) * x + curveB) % fieldPrime

/-! ### Points -/

/-- A point other than the neutral one. -/
structure Point where
  /-- The first coordinate. -/
  x : Nat
  /-- The second coordinate. -/
  y : Nat
  deriving DecidableEq

namespace Point

/-- The point that multiples are taken of. -/
def base : Point where
  x := 0x6B17D1F2E12C4247F8BCE6E563A440F277037D812DEB33A0F4A13945D898C296
  y := 0x4FE342E2FE1A7F9B8EE7EB4A7C0F9E162BCE33576B315ECECBB6406837BF51F5

/-- A pair of coordinates is a point when it satisfies the equation. -/
def ofCoordinates? (x y : Nat) : Option Point :=
  if x < fieldPrime ∧ y < fieldPrime ∧ y * y % fieldPrime = curveValue x then some ⟨x, y⟩
  else none

/-- The second coordinate of a point with the given first coordinate, if there is one; the other is
its negative. The field prime leaves 3 when divided by 4, which makes square roots powers. -/
def ordinate (x : Nat) : Nat :=
  Modular.powMod (curveValue x) ((fieldPrime + 1) / 4) fieldPrime

/-- The point with the given first coordinate whose second coordinate is odd or even. -/
def ofAbscissa? (x : Nat) (odd : Bool) : Option Point :=
  let y := ordinate x
  ofCoordinates? x (if (y % 2 = 1) = (odd = true) then y else fieldPrime - y)

/-- The point with the given first coordinate whose second coordinate is the smaller one. -/
def ofAbscissaLow? (x : Nat) : Option Point :=
  let y := ordinate x
  ofCoordinates? x (min y (fieldPrime - y))

/-- The point of an encoding. The first byte tells its form: both coordinates, the first with the
parity of the second, or the first alone, for the smaller of the two second coordinates. -/
def ofBytes? : Bytes → Option Point
  | [] => none
  | form :: coordinates =>
    if form = 0x04 ∧ coordinates.length = 64 then
      ofCoordinates? (Bytes.toNat (coordinates.take 32)) (Bytes.toNat (coordinates.drop 32))
    else if coordinates.length ≠ 32 then none
    else if form = 0x02 ∨ form = 0x03 then ofAbscissa? (Bytes.toNat coordinates) (form = 0x03)
    else if form = 0x05 then ofAbscissaLow? (Bytes.toNat coordinates)
    else none

/-- The third intersection with the curve of the line of the given slope through a point with
first coordinate `x₂`, reflected in the axis of the first coordinate. -/
def chord (p : Point) (x₂ slope : Nat) : Point :=
  let x := (slope * slope + 2 * fieldPrime - p.x - x₂) % fieldPrime
  ⟨x, (slope * (fieldPrime + p.x - x) + fieldPrime - p.y) % fieldPrime⟩

end Point

/-- The sum of two points; `none` is the neutral point. -/
def add : Option Point → Option Point → Option Point
  | none, q => q
  | p, none => p
  | some p, some q =>
    if p.x = q.x then
      if p.y = q.y ∧ p.y ≠ 0 then
        let slope := (3 * p.x * p.x + fieldPrime - 3) * Modular.inverse (2 * p.y) fieldPrime
        some (p.chord q.x (slope % fieldPrime))
      else none
    else
      let slope := (fieldPrime + q.y - p.y) *
        Modular.inverse (fieldPrime + q.x - p.x) fieldPrime
      some (p.chord q.x (slope % fieldPrime))

/-- The sum of `k` times `p` and `l` times `q`, by the last `bits` binary digits of both. -/
def multiples (p q both : Option Point) (k l : Nat) : (bits : Nat) → Option Point
  | 0 => none
  | bits + 1 =>
    let rest := multiples p q both (k / 2) (l / 2) bits
    let twice := add rest rest
    match k % 2, l % 2 with
    | 0, 0 => twice
    | _, 0 => add twice p
    | 0, _ => add twice q
    | _, _ => add twice both

/-! ### Signatures -/

/-- A signature. -/
structure Signature where
  /-- The first number, from 1 to `order - 1`. -/
  r : Nat
  /-- The second number, from 1 to `order - 1`. -/
  s : Nat
  deriving DecidableEq

namespace Signature

/-- The signature of an element. -/
def ofElement? (e : Der.Element) : Option Signature := do
  match ← e.sequence? with
  | [r, s] =>
    let r ← r.natBelow? order
    let s ← s.natBelow? order
    if r = 0 ∨ s = 0 then none else some ⟨r, s⟩
  | _ => none

/-- The signature that a byte string encodes. -/
def ofDer? (bytes : Bytes) : Option Signature := (Der.Element.decode? bytes).bind ofElement?

end Signature

/-- A signature of a message by the key of a point. -/
def verifies (key : Point) (message : Bytes) (signature : Signature) : Bool :=
  let digest := Bytes.toNat (Sha2.sha256 message)
  let inverse := Modular.inverse signature.s order
  let p := some Point.base
  let q := some key
  let sum := multiples p q (add p q) (digest * inverse % order)
    (signature.r * inverse % order) 256
  sum.any fun point => point.x % order = signature.r

end GridAuthz.P256
