/-! A place in a YAML text.

Lines end with a carriage return, a line feed, both, a next-line character, or a
line or paragraph separator. All but the separators are read as a line feed. -/
namespace BuilderLint.Yaml

/-! ### Kinds of characters -/

def nextLine : Char := Char.ofNat 0x85
def lineSeparator : Char := Char.ofNat 0x2028
def paragraphSeparator : Char := Char.ofNat 0x2029
def singleQuote : Char := Char.ofNat 0x27
def byteOrderMark : Char := Char.ofNat 0xFEFF

/-- The characters a text may hold. -/
def isAllowed (c : Char) : Bool :=
  let n := c.toNat
  n == 9 || n == 10 || n == 13 || (0x20 ≤ n && n ≤ 0x7E) || n == 0x85 ||
    (0xA0 ≤ n && n ≤ 0xD7FF) || (0xE000 ≤ n && n ≤ 0xFFFD) || 0x10000 ≤ n

def isBreak (c : Char) : Bool :=
  c == '\r' || c == '\n' || c == nextLine || c == lineSeparator || c == paragraphSeparator

def isBlank (c : Char) : Bool := c == ' ' || c == '\t'

/-- Letters, digits, `_` and `-`: the characters of names. -/
def isNameChar (c : Char) : Bool := c.isAlphanum || c == '_' || c == '-'

/-- Whether a blank, a line end or the end of the text comes next. -/
def atGap : List Char → Bool
  | [] => true
  | c :: _ => isBlank c || isBreak c

/-- Whether a line end or the end of the text comes next. -/
def atLineEnd : List Char → Bool
  | [] => true
  | c :: _ => isBreak c

/-- Whether a document marker comes next. -/
def atMarker : List Char → Bool
  | '-' :: '-' :: '-' :: rest => atGap rest
  | '.' :: '.' :: '.' :: rest => atGap rest
  | _ => false

/-! ### Cursors -/

/-- What is left of the text, and where that is. -/
structure Cursor where
  rest : List Char
  line : Nat := 0
  column : Nat := 0
  index : Nat := 0

namespace Cursor

/-- Behind `n` characters of the same line. -/
def advance (c : Cursor) (n : Nat) : Cursor :=
  { c with rest := c.rest.drop n, column := c.column + n, index := c.index + n }

/-- Behind all characters of the kind, none of which ends a line. -/
def skipWhile (c : Cursor) (p : Char → Bool) : Cursor :=
  c.advance (c.rest.takeWhile p).length

def toLineEnd (c : Cursor) : Cursor := c.skipWhile fun x => !isBreak x

/-- The line end that comes next, as it is read, and the place behind it. -/
def lineEnd? (c : Cursor) : Option (Char × Cursor) :=
  let next (n : Nat) : Cursor :=
    { c with rest := c.rest.drop n, line := c.line + 1, column := 0, index := c.index + n }
  match c.rest with
  | '\r' :: '\n' :: _ => some ('\n', next 2)
  | b :: _ =>
    if b == lineSeparator || b == paragraphSeparator then some (b, next 1)
    else if isBreak b then some ('\n', next 1)
    else none
  | [] => none

/-- Behind the line end that comes next, if any. -/
def skipLineEnd (c : Cursor) : Cursor :=
  match c.lineEnd? with
  | some (_, next) => next
  | none => c

/-- Whether a document marker stands here, at the start of a line. -/
def atDocumentMarker (c : Cursor) : Bool := c.column == 0 && atMarker c.rest

/-- How often a step can be taken before the text ends. -/
def fuel (c : Cursor) : Nat := c.rest.length + 1

end Cursor
end BuilderLint.Yaml
