import GridAuthz.Crypto.Modular

/-!
# Probable primes

A prime `n` leaves no remainder by a smaller prime, and the power `n - 1` of any smaller number
reaches one through a number whose square is one, which is one or `n - 1` itself. A number that
behaves so for a few bases is taken for a prime.
-/

namespace GridAuthz.Prime

/-- The primes below 256. -/
def small : List Nat :=
  (List.range 256).filter fun n => 2 ≤ n && (List.range n).all fun k => k < 2 || n % k ≠ 0

/-- A number without its factors two, and how many they are. -/
def oddPart (n : Nat) : Nat × Nat :=
  if n = 0 then (0, 0)
  else if n % 2 = 1 then (n, 0)
  else
    let (odd, count) := oddPart (n / 2)
    (odd, count + 1)
termination_by n

/-- The powers of `base` behave as with respect to a prime. -/
def passes (n base : Nat) : Bool :=
  let (odd, count) := oddPart (n - 1)
  let first := Modular.powMod base odd n
  first = 1 || ((List.range count).foldl (fun ((found, power) : Bool × Nat) _ =>
    (found || power = n - 1, power * power % n)) (false, first)).1

/-- The number is taken for a prime. -/
def isProbable (n : Nat) : Bool :=
  if n < 256 then small.contains n
  else small.all (n % · ≠ 0) && (small.take 16).all (passes n)

/-- The first of `fuel` odd numbers, from the odd number `n` on, that is taken for a prime and
that `accept` holds of. -/
def search? (accept : Nat → Bool) : (fuel : Nat) → (n : Nat) → Option Nat
  | 0, _ => none
  | fuel + 1, n =>
    if accept n && isProbable n then some n else search? accept fuel (n + 2)

end GridAuthz.Prime
