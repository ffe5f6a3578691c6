import BuilderLint.Yaml.Node

/-! The types of scalars.

Where any value may stand, a plain scalar is null, a truth value, a number or a
text by the way it is written, unless a tag says which. Digits behind a leading
zero are a text, and a whole number that fits 128 bits but not 64 is nothing that
can be used. -/
namespace BuilderLint.Yaml

/-- A scalar with its type. -/
inductive Typed where
  | null
  | bool (b : Bool)
  | whole (n : Int)
  | real (x : Float)
  | text (s : String)

namespace Typed

/-! ### Null and truth values -/

def isNullWord (s : String) : Bool := s == "~" || s == "null" || s == "Null" || s == "NULL"

def bool? (s : String) : Option Bool :=
  if s == "true" || s == "True" || s == "TRUE" then some true
  else if s == "false" || s == "False" || s == "FALSE" then some false
  else none

/-! ### Whole numbers -/

/-- The number that all the characters write in the base. -/
def inBase? (base : Nat) (cs : List Char) : Option Nat :=
  if cs.isEmpty then none
  else cs.foldlM (fun n c =>
    match hexDigit? c with
    | some d => if d < base then some (n * base + d) else none
    | none => none) 0

/-- A number in base 16, 8, 2 or 10, by the way it starts. Decimal digits have no zero in front. -/
def natural? (cs : List Char) : Option Nat :=
  match cs with
  | '0' :: 'x' :: digits => inBase? 16 digits
  | '0' :: 'o' :: digits => inBase? 8 digits
  | '0' :: 'b' :: digits => inBase? 2 digits
  | '0' :: _ :: _ => none
  | digits => inBase? 10 digits

/-- A number that is not negative, with or without a plus sign. -/
def unsigned? (s : String) : Option Nat :=
  match s.toList with
  | '+' :: cs => natural? cs
  | cs => natural? cs

/-- A whole number of any size. -/
def whole? (s : String) : Option Int :=
  match s.toList with
  | '-' :: cs => (natural? cs).map fun n => -Int.ofNat n
  | _ => (unsigned? s).map Int.ofNat

/-- A number below `2 ^ 64`. -/
def word? (s : String) : Option UInt64 :=
  (unsigned? s).bind fun n => if n < UInt64.size then some (UInt64.ofNat n) else none

/-! ### Other numbers -/

/-- Whether a text is digits behind a leading zero. -/
def isPadded (cs : List Char) : Bool :=
  match (match cs with
    | '-' :: rest => rest
    | '+' :: rest => rest
    | cs => cs) with
  | '0' :: c :: rest => (c :: rest).all Char.isDigit
  | _ => false

/-- The double nearest to `digits * 10 ^ exponent`; infinite or zero when it lies far outside. -/
def nearest (digits : List Char) (exponent : Int) : Float :=
  let digits := digits.dropWhile (· == '0')
  let n := digits.foldl (fun n c => n * 10 + (c.toNat - '0'.toNat)) 0
  let magnitude : Int := digits.length + exponent
  if n == 0 || magnitude < -400 then 0.0
  else if 400 < magnitude then 1.0 / 0.0
  else Float.ofScientific n (exponent < 0) exponent.natAbs

/-- The exponent behind a number. -/
def exponent? : List Char → Option Int
  | [] => some 0
  | e :: cs =>
    if e == 'e' || e == 'E' then
      match cs with
      | '-' :: cs => (inBase? 10 cs).map fun n => -Int.ofNat n
      | '+' :: cs => (inBase? 10 cs).map Int.ofNat
      | cs => (inBase? 10 cs).map Int.ofNat
    else none

/-- A decimal number, with digits before the point or behind it, and perhaps an exponent. -/
def decimal? (cs : List Char) : Option Float :=
  let (negative, cs) := match cs with
    | '-' :: rest => (true, rest)
    | cs => (false, cs)
  let before := cs.takeWhile Char.isDigit
  let cs := cs.dropWhile Char.isDigit
  let (after, cs) := match cs with
    | '.' :: rest => (rest.takeWhile Char.isDigit, rest.dropWhile Char.isDigit)
    | cs => ([], cs)
  if before.isEmpty && after.isEmpty then none
  else
    (exponent? cs).bind fun e =>
      let x := nearest (before ++ after) (e - after.length)
      if x.isInf then none else some (if negative then -x else x)

/-- A double: infinite, not a number, or decimal. -/
def real? (s : String) : Option Float :=
  let infinite (s : String) : Bool := s == ".inf" || s == ".Inf" || s == ".INF"
  let (plus, cs) := match s.toList with
    | '+' :: rest => (true, rest)
    | cs => (false, cs)
  let unsigned := String.ofList cs
  if plus && (cs.head? == some '+' || cs.head? == some '-') then none
  else if infinite unsigned then some (1.0 / 0.0)
  else if s == "-.inf" || s == "-.Inf" || s == "-.INF" then some (-1.0 / 0.0)
  else if s == ".nan" || s == ".NaN" || s == ".NAN" then some (0.0 / 0.0)
  else decimal? cs

/-! ### Scalars -/

/-- Whether a whole number can be used, cannot, or is so large that it is taken for a double. -/
inductive Fit where
  | fits
  | tooLarge
  | beyond
deriving DecidableEq

def fit (n : Int) : Fit :=
  let word : Int := UInt64.size
  if -(word / 2) ≤ n && n < word then .fits
  else if -(word * word / 2) ≤ n && n < word * word then .tooLarge
  else .beyond

/-- A plain scalar without a tag. -/
def ofPlain? (s : String) : Option Typed :=
  if s.isEmpty || isNullWord s then some .null
  else
    match bool? s with
    | some b => some (.bool b)
    | none =>
      let other : Typed :=
        if isPadded s.toList then .text s
        else
          match real? s with
          | some x => .real x
          | none => .text s
      match whole? s with
      | some n =>
        match fit n with
        | .fits => some (.whole n)
        | .tooLarge => none
        | .beyond => some other
      | none => some other

def coreTag (name : String) : String := "tag:yaml.org,2002:" ++ name

/-- Whether a tag is the text's own. -/
def isLocalTag (tag : Option String) : Bool :=
  match tag with
  | some t => t.toList.head? == some '!'
  | none => false

/-- The value of a scalar; nothing when its tag does not fit its text, or is the text's own. -/
def ofScalar? (tag : Option String) (style : Style) (s : String) : Option Typed :=
  match tag with
  | none => if style == .plain then ofPlain? s else some (.text s)
  | some t =>
    if isLocalTag tag then none
    else if t == coreTag "bool" then (bool? s).map .bool
    else if t == coreTag "int" then
      (whole? s).bind fun n => if fit n == .fits then some (.whole n) else none
    else if t == coreTag "float" then (real? s).map .real
    else if t == coreTag "null" then (if isNullWord s then some .null else none)
    else some (.text s)

end Typed
end BuilderLint.Yaml
