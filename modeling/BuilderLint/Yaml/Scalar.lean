import BuilderLint.Yaml.Cursor

/-! Scalars of a YAML text.

Plain and quoted scalars may run over several lines. The gap between two words of
them is kept if it lies on one line; a line end is folded into a blank, and
further line ends are kept. Block scalars keep their lines, or fold them, and end
with the indentation. -/
namespace BuilderLint.Yaml

/-! ### Gaps -/

/-- Blanks and line ends between two words. -/
structure Gap where
  /-- Whether a line end was met. -/
  broken : Bool := false
  /-- The blanks before the first line end. -/
  blanks : List Char := []
  firstBreak : Option Char := none
  furtherBreaks : List Char := []

namespace Gap

/-- What the gap stands for. -/
def text (g : Gap) : List Char :=
  if g.broken then
    if g.firstBreak == some '\n' then
      if g.furtherBreaks.isEmpty then [' '] else g.furtherBreaks
    else g.firstBreak.toList ++ g.furtherBreaks
  else g.blanks

/-- The gap from here on. With an `indent`, no tab may stand in the indentation. -/
def read (indent : Option Int) : Nat → Gap → Cursor → Option (Gap × Cursor)
  | 0, g, c => some (g, c)
  | fuel + 1, g, c =>
    match c.rest with
    | [] => some (g, c)
    | x :: _ =>
      if isBlank x then
        if g.broken then
          if x == '\t' && indent.any fun (n : Int) => c.column < n then none
          else read indent fuel g (c.advance 1)
        else read indent fuel { g with blanks := g.blanks ++ [x] } (c.advance 1)
      else
        match c.lineEnd? with
        | none => some (g, c)
        | some (b, next) =>
          if g.broken then read indent fuel { g with furtherBreaks := g.furtherBreaks ++ [b] } next
          else read indent fuel { broken := true, firstBreak := some b } next

end Gap

/-! ### Plain scalars -/

/-- The characters up to a gap or an indicator that ends a plain scalar. -/
def plainWord? (inFlow : Bool) : List Char → Option (List Char)
  | [] => some []
  | c :: rest =>
    if atGap (c :: rest) then some []
    else if inFlow && c == ':' && isFlowIndicator rest then none
    else if c == ':' && atGap rest then some []
    else if inFlow && (c == ',' || c == '[' || c == ']' || c == '\x7b' || c == '\x7d') then some []
    else (plainWord? inFlow rest).map (c :: ·)
where
  isFlowIndicator : List Char → Bool
    | c :: _ => c == ',' || c == '?' || c == '[' || c == ']' || c == '\x7b' || c == '\x7d'
    | [] => false

/-- A plain scalar from here on: its text, and whether a line end follows it. -/
def plainScalar (inFlow : Bool) (indent : Int) :
    Nat → List Char → Gap → Cursor → Option (List Char × Bool × Cursor)
  | 0, _, _, _ => none
  | fuel + 1, text, gap, c =>
    if c.atDocumentMarker || c.rest.head? == some '#' then some (text, gap.broken, c)
    else
      match plainWord? inFlow c.rest with
      | none => none
      | some [] => some (text, gap.broken, c)
      | some word =>
        let text := text ++ gap.text ++ word
        let c := c.advance word.length
        match Gap.read (some indent) c.fuel {} c with
        | none => none
        | some (gap, next) =>
          if next.index == c.index then some (text, false, next)
          else if !inFlow && next.column < indent then some (text, gap.broken, next)
          else plainScalar inFlow indent fuel text gap next

/-! ### Quoted scalars -/

def hexDigit? (c : Char) : Option Nat :=
  if c.isDigit then some (c.toNat - '0'.toNat)
  else if 'a' ≤ c && c ≤ 'f' then some (c.toNat - 'a'.toNat + 10)
  else if 'A' ≤ c && c ≤ 'F' then some (c.toNat - 'A'.toNat + 10)
  else none

/-- The number that `n` hexadecimal digits stand for. -/
def hexNumber? : Nat → Nat → List Char → Option Nat
  | 0, value, _ => some value
  | _ + 1, _, [] => none
  | n + 1, value, c :: rest =>
    match hexDigit? c with
    | some d => hexNumber? n (value * 16 + d) rest
    | none => none

/-- An escaped character by its code point, unless it is half a surrogate pair or none at all. -/
def codePoint? (n : Nat) : Option Char :=
  if (0xD800 ≤ n && n ≤ 0xDFFF) || 0x10FFFF < n then none else some (Char.ofNat n)

/-- What the characters behind a backslash stand for, and how many they are. -/
def escape? : List Char → Option (Char × Nat)
  | [] => none
  | c :: rest =>
    let coded (n : Nat) : Option (Char × Nat) :=
      ((hexNumber? n 0 rest).bind codePoint?).map fun x => (x, n + 1)
    match c with
    | '0' => some ('\x00', 1)
    | 'a' => some ('\x07', 1)
    | 'b' => some ('\x08', 1)
    | 't' => some ('\t', 1)
    | '\t' => some ('\t', 1)
    | 'n' => some ('\n', 1)
    | 'v' => some ('\x0b', 1)
    | 'f' => some ('\x0c', 1)
    | 'r' => some ('\r', 1)
    | 'e' => some ('\x1b', 1)
    | ' ' => some (' ', 1)
    | '"' => some ('"', 1)
    | '/' => some ('/', 1)
    | '\\' => some ('\\', 1)
    | 'N' => some (nextLine, 1)
    | '_' => some (Char.ofNat 0xA0, 1)
    | 'L' => some (lineSeparator, 1)
    | 'P' => some (paragraphSeparator, 1)
    | 'x' => coded 2
    | 'u' => coded 4
    | 'U' => coded 8
    | _ => none

/-- How a word of a quoted scalar ends. -/
inductive WordEnd where
  | quote
  | gap
  /-- An escaped line end: the gap that follows starts on a new line. -/
  | escapedBreak

/-- A word of a quoted scalar: its text, how it ends, and the place behind it. -/
def quotedWord (single : Bool) :
    Nat → List Char → Cursor → Option (List Char × WordEnd × Cursor)
  | 0, _, _ => none
  | fuel + 1, text, c =>
    match c.rest with
    | [] => some (text, .gap, c)
    | x :: rest =>
      if atGap (x :: rest) then some (text, .gap, c)
      else if single then
        if x == singleQuote then
          if rest.head? == some singleQuote then
            quotedWord single fuel (text ++ [singleQuote]) (c.advance 2)
          else some (text, .quote, c)
        else quotedWord single fuel (text ++ [x]) (c.advance 1)
      else
        match x with
        | '"' => some (text, .quote, c)
        | '\\' =>
          match (c.advance 1).lineEnd? with
          | some (_, next) => some (text, .escapedBreak, next)
          | none =>
            match escape? rest with
            | some (e, n) => quotedWord single fuel (text ++ [e]) (c.advance (n + 1))
            | none => none
        | x => quotedWord single fuel (text ++ [x]) (c.advance 1)

/-- A quoted scalar behind its opening quote. -/
def quotedScalar (single : Bool) : Nat → List Char → Cursor → Option (List Char × Cursor)
  | 0, _, _ => none
  | fuel + 1, text, c =>
    if c.atDocumentMarker || c.rest.isEmpty then none
    else
      match quotedWord single c.fuel [] c with
      | none => none
      | some (word, .quote, next) => some (text ++ word, next.advance 1)
      | some (word, ending, next) =>
        let start : Gap := match ending with
          | .escapedBreak => { broken := true }
          | _ => {}
        match Gap.read none next.fuel start next with
        | none => none
        | some (gap, next) => quotedScalar single fuel (text ++ word ++ gap.text) next

/-! ### Block scalars -/

/-- What becomes of the line ends at the end of a block scalar. -/
inductive Chomping where
  | strip
  | clip
  | keep
deriving DecidableEq

/-- The header of a block scalar: its chomping, its indentation relative to the parent's if given. -/
def blockHeader? (cs : List Char) : Option (Chomping × Option Nat × Nat) :=
  let chomping? : List Char → Option Chomping
    | '+' :: _ => some .keep
    | '-' :: _ => some .strip
    | _ => none
  let increment? : List Char → Option (Option Nat)
    | c :: _ =>
      if c == '0' then none
      else if c.isDigit then some (some (c.toNat - '0'.toNat))
      else some none
    | [] => some none
  match chomping? cs with
  | some chomping =>
    match increment? (cs.drop 1) with
    | none => none
    | some none => some (chomping, none, 1)
    | some (some n) => some (chomping, some n, 2)
  | none =>
    match increment? cs with
    | none => none
    | some none => some (.clip, none, 0)
    | some (some n) =>
      match chomping? (cs.drop 1) with
      | some chomping => some (chomping, some n, 2)
      | none => some (.clip, some n, 1)

/-- Skips indentation and empty lines. An `indent` of zero is not known yet: it becomes the widest
indentation met, and more than the parent's. -/
def blockBreaks (parent : Int) (indent : Int) :
    Nat → Nat → List Char → Cursor → Option (Int × List Char × Cursor)
  | 0, _, _, _ => none
  | fuel + 1, widest, breaks, c =>
    let spaces := (c.rest.takeWhile (· == ' ')).length
    let n := if indent == 0 then spaces else min spaces (indent - c.column).toNat
    let c := c.advance n
    let widest := max widest c.column
    if (indent == 0 || c.column < indent) && c.rest.head? == some '\t' then none
    else
      match c.lineEnd? with
      | some (b, next) => blockBreaks parent indent fuel widest (breaks ++ [b]) next
      | none =>
        let indent := if indent == 0 then max (max (widest : Int) (parent + 1)) 1 else indent
        some (indent, breaks, c)

/-- The lines of a block scalar. `lead` is the line end behind the last line and `breaks` are the empty
lines behind that; `blankLine` says that the last line started with a blank. -/
def blockLines (folded : Bool) (parent indent : Int) :
    Nat → List Char → Option Char → List Char → Bool → Cursor →
      Option (List Char × Option Char × List Char × Cursor)
  | 0, _, _, _, _, _ => none
  | fuel + 1, text, lead, breaks, blankLine, c =>
    match c.rest with
    | [] => some (text, lead, breaks, c)
    | x :: _ =>
      if (c.column : Int) != indent then some (text, lead, breaks, c)
      else
        let startsBlank := isBlank x
        let join :=
          if folded && lead == some '\n' && !blankLine && !startsBlank then
            if breaks.isEmpty then [' '] else []
          else lead.toList
        let line := c.rest.takeWhile fun y => !isBreak y
        let text := text ++ join ++ breaks ++ line
        let c := c.advance line.length
        let (lead, c) := match c.lineEnd? with
          | some (b, next) => (some b, next)
          | none => (none, c)
        match blockBreaks parent indent c.fuel 0 [] c with
        | none => none
        | some (_, breaks, c) => blockLines folded parent indent fuel text lead breaks startsBlank c

/-- A block scalar behind its indicator, inside a collection with the indentation `parent`. -/
def blockScalar (folded : Bool) (parent : Int) (c : Cursor) : Option (List Char × Cursor) :=
  match blockHeader? c.rest with
  | none => none
  | some (chomping, increment, n) =>
    let c := (c.advance n).skipWhile isBlank
    let c := if c.rest.head? == some '#' then c.toLineEnd else c
    if !atLineEnd c.rest then none
    else
      let c := c.skipLineEnd
      let indent : Int := match increment with
        | some n => if 0 ≤ parent then parent + n else n
        | none => 0
      match blockBreaks parent indent c.fuel 0 [] c with
      | none => none
      | some (indent, breaks, c) =>
        match blockLines folded parent indent c.fuel [] none breaks false c with
        | none => none
        | some (text, lead, breaks, c) =>
          let tail := match chomping with
            | .strip => []
            | .clip => lead.toList
            | .keep => lead.toList ++ breaks
          some (text ++ tail, c)

end BuilderLint.Yaml
