import BuilderLint.Yaml.Scalar
import BuilderLint.Yaml.Token

/-! Splitting a YAML text into tokens.

A mapping key needs no mark of its own: only the colon behind it tells that it was
one. Wherever a key may start, the number of the next token is remembered, and the
colon puts the key token, and the start of a mapping if there is a new one, in
front of that token. Such a key has to stay on one line and below 1024 characters.
Outside brackets the indentation opens and closes collections. -/
namespace BuilderLint.Yaml

/-! ### Names, tags and directives -/

/-- A name behind `*` or `&`: something that cannot belong to it has to follow. -/
def nameAfter? (c : Cursor) : Option (String × Cursor) :=
  let name := c.rest.takeWhile isNameChar
  let next := c.advance name.length
  let ends := atGap next.rest || match next.rest with
    | x :: _ => "?:,]\x7d%@`".toList.contains x
    | [] => true
  if name.isEmpty || !ends then none else some (String.ofList name, next)

/-- The bytes of one character that is written as `%` and two hexadecimal digits for each byte. -/
def escapedBytes : Nat → List Char → List UInt8 × Nat
  | 0, _ => ([], 0)
  | n + 1, '%' :: a :: b :: rest =>
    match hexDigit? a, hexDigit? b with
    | some x, some y =>
      let (bytes, used) := escapedBytes n rest
      (UInt8.ofNat (x * 16 + y) :: bytes, used + 3)
    | _, _ => ([], 0)
  | _ + 1, _ => ([], 0)

/-- The character that starts with an escaped byte, and the number of characters that write it. -/
def escapedChar? (cs : List Char) : Option (Char × Nat) :=
  let width := match (escapedBytes 1 cs).1 with
    | [b] =>
      if b.toNat < 0x80 then 1
      else if b.toNat / 32 == 6 then 2
      else if b.toNat / 16 == 14 then 3
      else if b.toNat / 8 == 30 then 4
      else 0
    | _ => 0
  let (bytes, used) := escapedBytes width cs
  if width == 0 || bytes.length != width then none
  else
    match (String.fromUTF8? ⟨bytes.toArray⟩).map String.toList with
    | some [c] => some (c, used)
    | _ => none

/-- The characters of a tag's address; brackets and commas only if `verbatim`. -/
def tagChars? (verbatim : Bool) : Nat → List Char → Cursor → Option (List Char × Cursor)
  | 0, _, _ => none
  | fuel + 1, found, c =>
    match c.rest with
    | [] => some (found, c)
    | x :: _ =>
      if x == '%' then
        match escapedChar? c.rest with
        | some (e, n) => tagChars? verbatim fuel (found ++ [e]) (c.advance n)
        | none => none
      else if isNameChar x || ";/?:@&=+$.!~*()".toList.contains x || x == singleQuote ||
          (verbatim && (x == ',' || x == '[' || x == ']')) then
        tagChars? verbatim fuel (found ++ [x]) (c.advance 1)
      else some (found, c)

/-- A handle: `!`, a name, and `!` again unless there is none. -/
def tagHandle? (c : Cursor) : Option (List Char × Cursor) :=
  match c.rest with
  | '!' :: rest =>
    let name := rest.takeWhile isNameChar
    let next := c.advance (name.length + 1)
    if next.rest.head? == some '!' then some ('!' :: name ++ ['!'], next.advance 1)
    else some ('!' :: name, next)
  | _ => none

/-- A tag: an address in angle brackets, or a handle and what follows it. A tag without a handle of
its own belongs to the handle `!`; a lone `!` belongs to none. -/
def tagToken? (inFlow : Bool) (c : Cursor) : Option (Token × Cursor) := do
  let (token, next) ←
    match c.rest with
    | '!' :: '<' :: _ => do
      let (uri, next) ← tagChars? true c.fuel [] (c.advance 2)
      if uri.isEmpty || next.rest.head? != some '>' then failure
      pure (Token.tag "" (String.ofList uri), next.advance 1)
    | _ => do
      let (handle, next) ← tagHandle? c
      if handle.length != 1 && handle.getLast? == some '!' then
        let (suffix, next) ← tagChars? false next.fuel [] next
        if suffix.isEmpty then failure
        pure (Token.tag (String.ofList handle) (String.ofList suffix), next)
      else
        let (suffix, next) ← tagChars? false next.fuel (handle.drop 1) next
        if suffix.isEmpty then pure (Token.tag "" "!", next)
        else pure (Token.tag "!" (String.ofList suffix), next)
  if atGap next.rest || (inFlow && next.rest.head? == some ',') then return (token, next)
  else failure

/-- A number of at most nine digits. -/
def versionNumber? (c : Cursor) : Option (Nat × Cursor) :=
  let digits := c.rest.takeWhile Char.isDigit
  if digits.isEmpty || 9 < digits.length then none
  else some (digits.foldl (fun n d => n * 10 + (d.toNat - '0'.toNat)) 0, c.advance digits.length)

/-- A directive, from its percent sign to the end of its line. -/
def directive? (c : Cursor) : Option (Token × Cursor) := do
  let c := c.advance 1
  let name := c.rest.takeWhile isNameChar
  let c := c.advance name.length
  if !atGap c.rest then failure
  let c := c.skipWhile isBlank
  let (token, c) ←
    match String.ofList name with
    | "YAML" => do
      let (major, c) ← versionNumber? c
      if c.rest.head? != some '.' then failure
      let (minor, c) ← versionNumber? (c.advance 1)
      pure (Token.version major minor, c)
    | "TAG" => do
      let (handle, c) ← tagHandle? c
      if handle.length != 1 && handle.getLast? != some '!' then failure
      match c.rest with
      | x :: _ => if !isBlank x then failure
      | [] => failure
      let c := c.skipWhile isBlank
      let (uri, c) ← tagChars? true c.fuel [] c
      if uri.isEmpty || !atGap c.rest then failure
      pure (Token.tagDirective (String.ofList handle) (String.ofList uri), c)
    | _ => failure
  let c := c.skipWhile isBlank
  let c := if c.rest.head? == some '#' then c.toLineEnd else c
  if atLineEnd c.rest then return (token, c.skipLineEnd) else failure

/-! ### The state between tokens -/

/-- A place where a key may have started. -/
structure KeyPlace where
  /-- The number of the token that starts there. -/
  number : Nat
  line : Nat
  column : Nat
  index : Nat
  /-- Whether nothing but a key can stand there. -/
  required : Bool

/-- What is known between two tokens. -/
structure Scan where
  cursor : Cursor
  /-- The tokens found so far, last first. -/
  found : List Token := []
  /-- The indentation of the innermost block collection, and of those around it. -/
  indent : Int := -1
  outerIndents : List Int := []
  /-- The possible key on each level of brackets, innermost first; the last one is the block level. -/
  keys : List (Option KeyPlace) := [none]
  keyAllowed : Bool := true

namespace Scan

def inFlow (s : Scan) : Bool := 1 < s.keys.length

def emit (s : Scan) (t : Token) : Scan := { s with found := t :: s.found }

/-- Puts tokens in front of the token with the given number. -/
def insertBefore (s : Scan) (number : Nat) (tokens : List Token) : Scan :=
  let n := s.found.length - number
  { s with found := s.found.take n ++ tokens.reverse ++ s.found.drop n }

def move (s : Scan) (n : Nat) : Scan := { s with cursor := s.cursor.advance n }

/-- Forgets the possible key of the innermost level; a required one must not be forgotten. -/
def dropKey? (s : Scan) : Option Scan :=
  match s.keys with
  | some place :: outer => if place.required then none else some { s with keys := none :: outer }
  | _ => some s

/-- Remembers that a key may start here. -/
def saveKey? (s : Scan) : Option Scan :=
  if !s.keyAllowed then some s
  else do
    let s ← s.dropKey?
    let place : KeyPlace := {
      number := s.found.length
      line := s.cursor.line
      column := s.cursor.column
      index := s.cursor.index
      required := !s.inFlow && s.indent == s.cursor.column }
    return { s with keys := some place :: s.keys.drop 1 }

/-- Forgets the possible keys that have become too long or lie on an earlier line. -/
def dropStaleKeys? (s : Scan) : Option Scan :=
  let isStale (place : KeyPlace) : Bool :=
    place.line < s.cursor.line || place.index + 1024 < s.cursor.index
  let keep (key : Option KeyPlace) : Option (Option KeyPlace) :=
    match key with
    | some place =>
      if isStale place then (if place.required then none else some none) else some key
    | none => some none
  (s.keys.mapM keep).map fun keys => { s with keys }

/-- Opens a block collection if the column lies further in. -/
def indentTo (s : Scan) (column : Nat) (start : Token) : Scan :=
  if !s.inFlow && s.indent < column then
    { s.emit start with indent := column, outerIndents := s.indent :: s.outerIndents }
  else s

/-- Closes the block collections that lie further in than the column. -/
def closeTo (column : Int) : List Int → Scan → Scan
  | [], s => s
  | outer :: rest, s =>
    if column < s.indent then
      closeTo column rest { s.emit .blockEnd with indent := outer, outerIndents := rest }
    else s

def outdentTo (s : Scan) (column : Int) : Scan :=
  if s.inFlow then s else closeTo column s.outerIndents s

/-- Skips blanks, comments and line ends. A tab may not stand where a key may start. -/
def skipGap : Nat → Scan → Scan
  | 0, s => s
  | fuel + 1, s =>
    let c := s.cursor
    let c := if c.column == 0 && c.rest.head? == some byteOrderMark then c.advance 1 else c
    let c := c.skipWhile fun x => x == ' ' || ((s.inFlow || !s.keyAllowed) && x == '\t')
    let c := if c.rest.head? == some '#' then c.toLineEnd else c
    match c.lineEnd? with
    | some (_, next) =>
      skipGap fuel { s with cursor := next, keyAllowed := s.keyAllowed || !s.inFlow }
    | none => { s with cursor := c }

/-! ### Tokens -/

def marker? (s : Scan) (t : Token) : Option Scan := do
  let s ← (s.outdentTo (-1)).dropKey?
  return ({ s with keyAllowed := false }.move 3).emit t

def directiveToken? (s : Scan) : Option Scan := do
  let s ← (s.outdentTo (-1)).dropKey?
  let (t, next) ← directive? s.cursor
  return { s with keyAllowed := false, cursor := next }.emit t

def flowStart? (s : Scan) (t : Token) : Option Scan := do
  let s ← s.saveKey?
  return ({ s with keys := none :: s.keys, keyAllowed := true }.move 1).emit t

def flowEnd? (s : Scan) (t : Token) : Option Scan := do
  let s ← s.dropKey?
  let keys := if s.inFlow then s.keys.drop 1 else s.keys
  return ({ s with keys, keyAllowed := false }.move 1).emit t

def flowEntry? (s : Scan) : Option Scan := do
  let s ← s.dropKey?
  return ({ s with keyAllowed := true }.move 1).emit .flowEntry

def blockEntry? (s : Scan) : Option Scan := do
  if !s.inFlow && !s.keyAllowed then failure
  let s ← (s.indentTo s.cursor.column .blockSequenceStart).dropKey?
  return ({ s with keyAllowed := true }.move 1).emit .blockEntry

def explicitKey? (s : Scan) : Option Scan := do
  if !s.inFlow && !s.keyAllowed then failure
  let s ← (s.indentTo s.cursor.column .blockMappingStart).dropKey?
  return ({ s with keyAllowed := !s.inFlow }.move 1).emit .key

def value? (s : Scan) : Option Scan :=
  match s.keys with
  | some place :: outer =>
    let opens := !s.inFlow && s.indent < place.column
    let s := s.insertBefore place.number (if opens then [.blockMappingStart, .key] else [.key])
    let s := if opens then
      { s with indent := place.column, outerIndents := s.indent :: s.outerIndents } else s
    some (({ s with keys := none :: outer, keyAllowed := false }.move 1).emit .value)
  | _ =>
    if !s.inFlow && !s.keyAllowed then none
    else
      let s := s.indentTo s.cursor.column .blockMappingStart
      some (({ s with keyAllowed := !s.inFlow }.move 1).emit .value)

/-- A token that may start a key. -/
def keyStart? (s : Scan) (read : Cursor → Option (Token × Cursor)) : Option Scan := do
  let s ← s.saveKey?
  let (t, next) ← read s.cursor
  return { s with keyAllowed := false, cursor := next }.emit t

def blockScalar? (s : Scan) (folded : Bool) : Option Scan := do
  let s ← s.dropKey?
  let (text, next) ← blockScalar folded s.indent (s.cursor.advance 1)
  let style : Style := if folded then .folded else .literal
  return { s with keyAllowed := true, cursor := next }.emit (.scalar style (String.ofList text))

def quoted? (s : Scan) (single : Bool) : Option Scan :=
  s.keyStart? fun c => do
    let (text, next) ← quotedScalar single c.fuel [] (c.advance 1)
    let style : Style := if single then .singleQuoted else .doubleQuoted
    return (.scalar style (String.ofList text), next)

def plain? (s : Scan) : Option Scan := do
  let s ← s.saveKey?
  let (text, broken, next) ←
    plainScalar s.inFlow (s.indent + 1) s.cursor.fuel [] {} s.cursor
  return { s with keyAllowed := broken, cursor := next }.emit (.scalar .plain (String.ofList text))

/-- Whether a plain scalar may start with the first of the characters. -/
def mayStartPlain (inFlow : Bool) : List Char → Bool
  | [] => false
  | c :: rest =>
    let indicators := "-?:,[]\x7b\x7d#&*!|>\"%@`".toList
    !(isBlank c || isBreak c || indicators.contains c || c == singleQuote) ||
      (c == '-' && !(rest.head?.any isBlank)) ||
      (!inFlow && (c == '?' || c == ':') && !atGap rest)

/-- The next token, and those that the indentation and a colon bring along. -/
def next? (s : Scan) : Option Scan := do
  let s ← (s.skipGap s.cursor.fuel).dropStaleKeys?
  let s := s.outdentTo s.cursor.column
  match s.cursor.rest with
  | [] =>
    let s ← (s.outdentTo (-1)).dropKey?
    return { s with keyAllowed := false }.emit .streamEnd
  | c :: rest =>
    let atStart := s.cursor.column == 0
    if atStart && c == '%' then s.directiveToken?
    else if s.cursor.atDocumentMarker then
      s.marker? (if c == '-' then .documentStart else .documentEnd)
    else if c == '[' then s.flowStart? .flowSequenceStart
    else if c == '\x7b' then s.flowStart? .flowMappingStart
    else if c == ']' then s.flowEnd? .flowSequenceEnd
    else if c == '\x7d' then s.flowEnd? .flowMappingEnd
    else if c == ',' then s.flowEntry?
    else if c == '-' && atGap rest then s.blockEntry?
    else if c == '?' && (s.inFlow || atGap rest) then s.explicitKey?
    else if c == ':' && (s.inFlow || atGap rest) then s.value?
    else if c == '*' then
      s.keyStart? fun c => (nameAfter? (c.advance 1)).map fun (name, next) => (.alias name, next)
    else if c == '&' then
      s.keyStart? fun c => (nameAfter? (c.advance 1)).map fun (name, next) => (.anchor name, next)
    else if c == '!' then s.keyStart? (tagToken? s.inFlow)
    else if c == '|' && !s.inFlow then s.blockScalar? false
    else if c == '>' && !s.inFlow then s.blockScalar? true
    else if c == singleQuote then s.quoted? true
    else if c == '"' then s.quoted? false
    else if mayStartPlain s.inFlow (c :: rest) then s.plain?
    else none

def run : Nat → Scan → Option (List Token)
  | 0, _ => none
  | fuel + 1, s =>
    match s.next? with
    | none => none
    | some s =>
      match s.found with
      | .streamEnd :: _ => some s.found.reverse
      | _ => run fuel s

end Scan

/-- The tokens of a text, if it can be split into tokens. -/
def Token.scan? (text : String) : Option (List Token) :=
  let cs := text.toList
  if cs.all isAllowed then Scan.run (cs.length + 2) { cursor := { rest := cs } } else none

end BuilderLint.Yaml
