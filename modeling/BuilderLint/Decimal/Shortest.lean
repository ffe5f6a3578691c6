/-! Shortest decimals.

A double stands for all reals that round to it. Among the decimals in that
interval the shortest is written, and of two equally short ones the nearer. All
of it is exact arithmetic on the double's bits: the coarsest power of ten with a
multiple inside the interval gives the fewest digits, since a multiple of a
coarser power would have been found before. -/
namespace BuilderLint

/-- The number `digits * 10 ^ exponent`. -/
structure Decimal where
  digits : Nat
  exponent : Int
deriving Repr, DecidableEq

namespace Decimal

/-- A positive double `significand * 2 ^ power`. -/
structure Binary where
  significand : Nat
  power : Int
  /-- The next double below is half as far away as the next one above. -/
  lowerIsNear : Bool
deriving Repr, DecidableEq

namespace Binary

/-- The double with the given bits, its sign left out. -/
def ofBits (bits : UInt64) : Binary :=
  let fraction : Nat := bits.toNat % Nat.pow 2 52
  let field : Nat := bits.toNat / Nat.pow 2 52 % Nat.pow 2 11
  if field = 0 then ⟨fraction, -1074, false⟩
  else ⟨fraction + Nat.pow 2 52, (field : Int) - 1075, fraction == 0 && field != 1⟩

/-- Four times the significand, and the two ends of the interval on the same scale. -/
def centre (b : Binary) : Nat := 4 * b.significand
def low (b : Binary) : Nat := 4 * b.significand - if b.lowerIsNear then 1 else 2
def high (b : Binary) : Nat := 4 * b.significand + 2

/-- Compares `n * 2 ^ (power - 2)` with `k * 10 ^ e`, both multiplied out. -/
def scaled (b : Binary) (n k : Nat) (e : Int) : Nat × Nat :=
  let p := b.power - 2
  (n * Nat.pow 2 p.toNat * Nat.pow 10 (-e).toNat, k * Nat.pow 10 e.toNat * Nat.pow 2 (-p).toNat)

/-- Whether `k * 10 ^ e` rounds to the double; the ends belong to an even significand. -/
def holds (b : Binary) (k : Nat) (e : Int) : Bool :=
  let (l, x) := b.scaled b.low k e
  let (h, y) := b.scaled b.high k e
  if b.significand % 2 = 0 then l ≤ x && y ≤ h else l < x && y < h

/-- The multiple of `10 ^ e` just below the double. -/
def below (b : Binary) (e : Int) : Nat :=
  let (v, unit) := b.scaled b.centre 1 e
  v / unit

/-- The multiple of `10 ^ e` that rounds to the double, the nearer of two; a tie goes to the even one. -/
def multiple? (b : Binary) (e : Int) : Option Nat :=
  let k := b.below e
  match b.holds k e && k != 0, b.holds (k + 1) e with
  | true, true =>
    let (v, unit) := b.scaled b.centre 1 e
    let twice := 2 * v
    let middle := (2 * k + 1) * unit
    if twice < middle || (twice == middle && k % 2 == 0) then some k else some (k + 1)
  | true, false => some k
  | false, true => some (k + 1)
  | false, false => none

/-- The shortest decimal that rounds to the double. -/
def shortest (b : Binary) : Decimal :=
  let exponents := (List.range 650).map fun (i : Nat) => 310 - Int.ofNat i
  match exponents.findSome? fun e => (b.multiple? e).map (⟨·, e⟩) with
  | some d => d
  | none => ⟨b.significand, 0⟩

end Binary

end Decimal
end BuilderLint
