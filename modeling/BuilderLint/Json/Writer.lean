import BuilderLint.Decimal.Shortest
import BuilderLint.Json.Value

/-! Writing JSON.

Two layouts: on one line, and over several lines with two blanks per level. Both
write a member's name, a colon and its value in the order of the members, and an
empty array or object as its two brackets. -/
namespace BuilderLint.Json

/-! ### Numbers -/

/-- How a decimal is laid out. -/
structure NumberLayout where
  /-- The least power of ten of a leading digit that is written without an exponent. -/
  positionalFrom : Int
  /-- The first power of ten of a leading digit that needs an exponent. -/
  positionalTo : Int
  /-- The least number of digits of an exponent. -/
  exponentWidth : Nat

/-- Numbers below `10 ^ 16` and from `10 ^ -5` on are written without an exponent; an exponent has a
sign and two digits at least. -/
def numberLayout : NumberLayout := ⟨-5, 16, 2⟩

def zeros (n : Nat) : List Char := List.replicate n '0'

/-- A decimal, always with a point or an exponent. -/
def NumberLayout.write (layout : NumberLayout) (d : Decimal) : List Char :=
  let digits := Nat.toDigits 10 d.digits
  let leading : Int := d.exponent + (digits.length - 1 : Nat)
  if layout.positionalFrom ≤ leading && leading < layout.positionalTo then
    if 0 ≤ d.exponent then digits ++ zeros d.exponent.toNat ++ ['.', '0']
    else if 0 ≤ leading then
      let n := leading.toNat + 1
      digits.take n ++ '.' :: digits.drop n
    else '0' :: '.' :: zeros (-leading - 1).toNat ++ digits
  else
    let fraction := match digits.drop 1 with
      | [] => []
      | ds => '.' :: ds
    let exponent := Nat.toDigits 10 leading.natAbs
    digits.take 1 ++ fraction ++ ['e', if 0 ≤ leading then '+' else '-'] ++
      zeros (layout.exponentWidth - exponent.length) ++ exponent

/-- The fewest digits that read back as the same double. -/
def realText (x : Float) : String :=
  let bits := x.toBits
  let sign := if UInt64.size / 2 ≤ bits.toNat then ['-'] else []
  let b := Decimal.Binary.ofBits bits
  let digits := if b.significand = 0 then ['0', '.', '0'] else numberLayout.write b.shortest
  String.ofList (sign ++ digits)

def Number.text : Number → String
  | .whole n => toString n
  | .real x => realText x

/-! ### Texts -/

def hexDigits (n width : Nat) : List Char :=
  let ds := Nat.toDigits 16 n
  zeros (width - ds.length) ++ ds

/-- How one character stands inside a JSON text. -/
def escapeChar (c : Char) : List Char :=
  match c with
  | '"' => ['\\', '"']
  | '\\' => ['\\', '\\']
  | '\n' => ['\\', 'n']
  | '\r' => ['\\', 'r']
  | '\t' => ['\\', 't']
  | '\x08' => ['\\', 'b']
  | '\x0c' => ['\\', 'f']
  | c => if c.toNat < 0x20 then ['\\', 'u'] ++ hexDigits c.toNat 4 else [c]

def textLiteral (s : String) : String :=
  String.ofList ('"' :: s.toList.flatMap escapeChar ++ ['"'])

/-! ### Values -/

/-- The line break in front of a line `level` levels in. -/
def lineBreak (level : Nat) : String :=
  String.ofList ('\n' :: List.replicate (2 * level) ' ')

namespace Value

mutual

/-- The value over several lines, `level` levels in. -/
def prettyAt (level : Nat) : Value → String
  | .null => "null"
  | .bool b => if b then "true" else "false"
  | .number n => n.text
  | .string s => textLiteral s
  | .array [] => "[]"
  | .array (v :: rest) =>
    "[" ++ lineBreak (level + 1) ++ prettyAt (level + 1) v ++ prettyItems (level + 1) rest ++
      lineBreak level ++ "]"
  | .object [] => "\x7b\x7d"
  | .object ((name, v) :: rest) =>
    "\x7b" ++ lineBreak (level + 1) ++ textLiteral name ++ ": " ++ prettyAt (level + 1) v ++
      prettyMembers (level + 1) rest ++ lineBreak level ++ "\x7d"

/-- Further items, each with the comma before it. -/
def prettyItems (level : Nat) : List Value → String
  | [] => ""
  | v :: rest => "," ++ lineBreak level ++ prettyAt level v ++ prettyItems level rest

/-- Further members, each with the comma before it. -/
def prettyMembers (level : Nat) : List (String × Value) → String
  | [] => ""
  | (name, v) :: rest =>
    "," ++ lineBreak level ++ textLiteral name ++ ": " ++ prettyAt level v ++
      prettyMembers level rest

end

/-- The value over several lines. -/
def pretty (v : Value) : String := prettyAt 0 v

mutual

/-- The value on one line. -/
def compact : Value → String
  | .null => "null"
  | .bool b => if b then "true" else "false"
  | .number n => n.text
  | .string s => textLiteral s
  | .array [] => "[]"
  | .array (v :: rest) => "[" ++ compact v ++ compactItems rest ++ "]"
  | .object [] => "\x7b\x7d"
  | .object ((name, v) :: rest) =>
    "\x7b" ++ textLiteral name ++ ":" ++ compact v ++ compactMembers rest ++ "\x7d"

/-- Further items, each with the comma before it. -/
def compactItems : List Value → String
  | [] => ""
  | v :: rest => "," ++ compact v ++ compactItems rest

/-- Further members, each with the comma before it. -/
def compactMembers : List (String × Value) → String
  | [] => ""
  | (name, v) :: rest => "," ++ textLiteral name ++ ":" ++ compact v ++ compactMembers rest

end

end Value
end BuilderLint.Json
