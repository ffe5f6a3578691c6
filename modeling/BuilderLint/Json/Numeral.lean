import BuilderLint.Json.Value

/-! Numbers as they are written in JSON.

A numeral is read in one pass. Its digits are gathered into a word as long as
they fit; further digits before the point only scale the number, further digits
after it are dropped. The word is then multiplied or divided by a power of ten
once, so the last bit of a long numeral is not always the nearest one. -/
namespace BuilderLint.Json

/-- The parts of a written number; digits are their values. -/
structure Numeral where
  negative : Bool
  whole : List Nat
  fraction : Option (List Nat)
  /-- The exponent's digits, and whether it carries a minus sign. -/
  exponent : Option (Bool × List Nat)

namespace Numeral

/-- Appends digits to `word` while the result stays below `2 ^ 64`; also counts them. -/
def gather (word : Nat) : List Nat → Nat × Nat
  | [] => (word, 0)
  | d :: rest =>
    if word * 10 + d < UInt64.size then
      let (w, n) := gather (word * 10 + d) rest
      (w, n + 1)
    else (word, 0)

/-- The natural number with these digits. -/
def ofDigits (digits : List Nat) : Nat :=
  digits.foldl (fun n d => n * 10 + d) 0

/-- The double nearest to `10 ^ n`. -/
def tenToThe (n : Nat) : Float := Float.ofScientific 1 false n

/-- `word * 10 ^ exponent` by at most two divisions or one multiplication; `none` when it overflows. -/
def scale (word : Nat) (exponent : Int) : Option Float :=
  let f := (UInt64.ofNat word).toFloat
  if 0 ≤ exponent then
    if word = 0 then some f
    else if 308 < exponent then none
    else
      let g := f * tenToThe exponent.toNat
      if g.isInf then none else some g
  else if -308 ≤ exponent then some (f / tenToThe (-exponent).toNat)
  else if -616 ≤ exponent then some (f / tenToThe 308 / tenToThe (-exponent - 308).toNat)
  else some 0.0

/-- The number written, or `none` when it is too large for a double. -/
def number? (n : Numeral) : Option Number :=
  let sign (x : Float) : Number := .real (if n.negative then -x else x)
  let (word, taken) := gather 0 n.whole
  let beyond := n.whole.length - taken
  let (word, places) := gather word (n.fraction.getD [])
  let start : Int := beyond - places
  match n.exponent with
  | some (down, digits) =>
    let e := ofDigits digits
    if 2147483647 < e then
      if word ≠ 0 && !down then none else some (sign 0.0)
    else (scale word (if down then start - e else start + e)).map sign
  | none =>
    if beyond ≠ 0 || n.fraction.isSome then (scale word start).map sign
    else if !n.negative then some (.whole word)
    else if word = 0 || UInt64.size / 2 < word then some (sign (UInt64.ofNat word).toFloat)
    else some (.whole (-(word : Int)))

end Numeral
end BuilderLint.Json
