import BuilderLint.Json.Draft
import BuilderLint.Json.Numeral

/-! Reading JSON text into a draft.

Every function takes the characters that are left and returns what it read
together with the characters behind it. Reading stops at the first fault, so
what follows a fault is never looked at. -/
namespace BuilderLint.Json.Draft

/-! ### Blanks, words and numbers -/

def isBlankChar (c : Char) : Bool :=
  c == ' ' || c == '\n' || c == '\t' || c == '\r'

def skipBlanks (cs : List Char) : List Char := cs.dropWhile isBlankChar

/-- The characters behind a word, if they start with it. -/
def afterWord? : List Char → List Char → Option (List Char)
  | [], cs => some cs
  | w :: word, c :: cs => if w = c then afterWord? word cs else none
  | _ :: _, [] => none

def digitValue (c : Char) : Nat := c.toNat - '0'.toNat

/-- The leading digits. -/
def digits (cs : List Char) : List Nat × List Char :=
  ((cs.takeWhile Char.isDigit).map digitValue, cs.dropWhile Char.isDigit)

/-- One digit or more. -/
def digits? (cs : List Char) : Option (List Nat × List Char) :=
  match digits cs with
  | ([], _) => none
  | found => some found

/-- The part before the point: no zero stands in front of another digit. -/
def wholePart? (cs : List Char) : Option (List Nat × List Char) :=
  match digits? cs with
  | some (0 :: _ :: _, _) => none
  | found => found

def fractionPart? : List Char → Option (Option (List Nat) × List Char)
  | '.' :: cs => (digits? cs).map fun (ds, rest) => (some ds, rest)
  | cs => some (none, cs)

def exponentPart? : List Char → Option (Option (Bool × List Nat) × List Char)
  | c :: cs =>
    if c = 'e' || c = 'E' then
      match cs with
      | '-' :: cs => (digits? cs).map fun (ds, rest) => (some (true, ds), rest)
      | '+' :: cs => (digits? cs).map fun (ds, rest) => (some (false, ds), rest)
      | cs => (digits? cs).map fun (ds, rest) => (some (false, ds), rest)
    else some (none, c :: cs)
  | [] => some (none, [])

def numeral? (cs : List Char) : Option (Numeral × List Char) := do
  let (negative, cs) := match cs with
    | '-' :: cs => (true, cs)
    | cs => (false, cs)
  let (whole, cs) ← wholePart? cs
  let (fraction, cs) ← fractionPart? cs
  let (exponent, cs) ← exponentPart? cs
  return (⟨negative, whole, fraction, exponent⟩, cs)

def readNumber (cs : List Char) : Draft × List Char :=
  match numeral? cs with
  | none => (.broken, [])
  | some (n, rest) =>
    match n.number? with
    | some x => (.number x, rest)
    | none => (.unusable, rest)

/-! ### Texts -/

def hexValue? (c : Char) : Option Nat :=
  if c.isDigit then some (c.toNat - '0'.toNat)
  else if 'a' ≤ c && c ≤ 'f' then some (c.toNat - 'a'.toNat + 10)
  else if 'A' ≤ c && c ≤ 'F' then some (c.toNat - 'A'.toNat + 10)
  else none

/-- Four hexadecimal digits. -/
def unit? : List Char → Option (Nat × List Char)
  | a :: b :: c :: d :: rest => do
    let a ← hexValue? a
    let b ← hexValue? b
    let c ← hexValue? c
    let d ← hexValue? d
    return (((a * 16 + b) * 16 + c) * 16 + d, rest)
  | _ => none

def shortEscape? : Char → Option Char
  | '"' => some '"'
  | '\\' => some '\\'
  | '/' => some '/'
  | 'b' => some '\x08'
  | 'f' => some '\x0c'
  | 'n' => some '\n'
  | 'r' => some '\r'
  | 't' => some '\t'
  | _ => none

/-- What an escape stands for: a character, or half a surrogate pair. -/
inductive Escaped where
  | char (c : Char)
  | high (n : Nat)
  | low (n : Nat)

def Escaped.ofUnit (n : Nat) : Escaped :=
  if 0xD800 ≤ n && n < 0xDC00 then .high n
  else if 0xDC00 ≤ n && n < 0xE000 then .low n
  else .char (Char.ofNat n)

/-- The text up to the closing quote, in pieces; `none` when it is cut or holds a bare control character. -/
def pieces? : Nat → List Char → List Escaped → Option (List Escaped × List Char)
  | 0, _, _ => none
  | _ + 1, [], _ => none
  | fuel + 1, c :: cs, found =>
    if c = '"' then some (found.reverse, cs)
    else if c = '\\' then
      match cs with
      | 'u' :: cs =>
        match unit? cs with
        | some (n, rest) => pieces? fuel rest (.ofUnit n :: found)
        | none => none
      | e :: cs =>
        match shortEscape? e with
        | some x => pieces? fuel cs (.char x :: found)
        | none => none
      | [] => none
    else if c.toNat < 0x20 then none
    else pieces? fuel cs (.char c :: found)

/-- The characters of the pieces: both halves of a pair make one character, half a pair makes none. -/
def join? : List Escaped → Option (List Char)
  | [] => some []
  | .char c :: rest => (join? rest).map (c :: ·)
  | .high h :: .low l :: rest =>
    (join? rest).map (Char.ofNat (0x10000 + (h - 0xD800) * 0x400 + (l - 0xDC00)) :: ·)
  | .high _ :: _ => none
  | .low _ :: _ => none

/-- The text behind an opening quote. -/
def readText (cs : List Char) : Draft × List Char :=
  match pieces? (cs.length + 1) cs [] with
  | none => (.broken, [])
  | some (pieces, rest) =>
    match join? pieces with
    | some text => (.string (String.ofList text), rest)
    | none => (.unusable, rest)

/-! ### Values -/

def isBroken : Draft → Bool
  | .broken => true
  | .array _ whole => !whole
  | .object _ whole => !whole
  | _ => false

def readWord (word : String) (meaning : Draft) (cs : List Char) : Draft × List Char :=
  match afterWord? word.toList cs with
  | some rest => (meaning, rest)
  | none => (.broken, [])

mutual

/-- The value that starts here. -/
def readValue : Nat → List Char → Draft × List Char
  | 0, _ => (.broken, [])
  | fuel + 1, cs =>
    match skipBlanks cs with
    | [] => (.broken, [])
    | c :: rest =>
      if c = '[' then
        match skipBlanks rest with
        | ']' :: rest => (.array [] true, rest)
        | rest => readItems fuel rest []
      else if c = '\x7b' then
        match skipBlanks rest with
        | '\x7d' :: rest => (.object [] true, rest)
        | rest => readMembers fuel rest []
      else if c = '"' then readText rest
      else if c = 't' then readWord "true" (.bool true) (c :: rest)
      else if c = 'f' then readWord "false" (.bool false) (c :: rest)
      else if c = 'n' then readWord "null" .null (c :: rest)
      else readNumber (c :: rest)

/-- The items of an array from here on, one at least; `found` holds the earlier ones, last first. -/
def readItems : Nat → List Char → List Draft → Draft × List Char
  | 0, _, found => (.array found.reverse false, [])
  | fuel + 1, cs, found =>
    let (d, rest) := readValue fuel cs
    let found := d :: found
    if d.isBroken then (.array found.reverse false, [])
    else
      match skipBlanks rest with
      | ']' :: rest => (.array found.reverse true, rest)
      | ',' :: rest => readItems fuel rest found
      | _ => (.array found.reverse false, [])

/-- The members of an object from here on, one at least. A key that is no text ends the object, as does
a key without a colon behind it. -/
def readMembers : Nat → List Char → List (Draft × Draft) → Draft × List Char
  | 0, _, found => (.object found.reverse false, [])
  | fuel + 1, cs, found =>
    match skipBlanks cs with
    | '"' :: cs =>
      let (key, rest) := readText cs
      match skipBlanks rest with
      | ':' :: rest => readMember fuel key rest found
      | _ => (.object ((key, .broken) :: found).reverse false, [])
    | cs => (.object (((readValue fuel cs).1, .broken) :: found).reverse false, [])

/-- The value of a member, and the members behind it. -/
def readMember : Nat → Draft → List Char → List (Draft × Draft) → Draft × List Char
  | 0, _, _, found => (.object found.reverse false, [])
  | fuel + 1, key, cs, found =>
    let (d, rest) := readValue fuel cs
    let found := (key, d) :: found
    if d.isBroken then (.object found.reverse false, [])
    else
      match skipBlanks rest with
      | '\x7d' :: rest => (.object found.reverse true, rest)
      | ',' :: rest => readMembers fuel rest found
      | _ => (.object found.reverse false, [])

end

/-- The draft of a whole text, and whether nothing but blanks follows it. -/
def read (text : String) : Draft × Bool :=
  let cs := text.toList
  let (d, rest) := readValue (2 * cs.length + 2) cs
  (d, (skipBlanks rest).isEmpty)

end BuilderLint.Json.Draft
