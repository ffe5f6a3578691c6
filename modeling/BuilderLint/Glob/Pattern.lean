/-! Glob patterns.

A pattern is a list of tokens. Two stars stand for any number of directories
where they make up a path component of their own, and for two plain stars
elsewhere. The tokens of a group of alternatives are gathered branch by branch;
groups may be nested. -/
namespace BuilderLint.Glob

/-- A piece of a pattern. -/
inductive Token where
  | literal (c : Char)
  /-- Any one byte. -/
  | any
  /-- Any bytes. -/
  | star
  /-- Two stars at the start: nothing, or directories up to a slash. -/
  | leadingDirs
  /-- A slash and two stars at the end: all below a directory. -/
  | trailingDirs
  /-- Two stars between slashes: a slash, or directories between two. -/
  | innerDirs
  | oneOf (negated : Bool) (ranges : List (Char × Char))
  | alternatives (branches : List (List Token))
deriving Repr

/-- Why a text is no pattern. -/
inductive Error where
  | unclosedClass
  | invalidRange (first last : Char)
  | unopenedGroup
  | unclosedGroup
  | danglingEscape
deriving DecidableEq, Repr

namespace Error

def reason : Error → String
  | .unclosedClass => "unclosed character class; missing ']'"
  | .invalidRange first last =>
    "invalid range; '" ++ first.toString ++ "' > '" ++ last.toString ++ "'"
  | .unopenedGroup =>
    "unopened alternate group; missing '\x7b' (maybe escape '\x7d' with '[\x7d]'?)"
  | .unclosedGroup =>
    "unclosed alternate group; missing '\x7d' (maybe escape '\x7b' with '[\x7b]'?)"
  | .danglingEscape => "dangling '\\'"

end Error

/-! ### Classes -/

/-- The members of a class up to its closing bracket, last first, and the characters behind it.
`waiting` says that a dash stands before
the rest. -/
def classRanges (first : Bool) (waiting : Bool) (ranges : List (Char × Char)) :
    List Char → Except Error (List (Char × Char) × List Char)
  | [] => .error .unclosedClass
  | c :: rest =>
    if c = ']' && !first then .ok (if waiting then ('-', '-') :: ranges else ranges, rest)
    else if c = '-' && !first && !waiting then classRanges false true ranges rest
    else if waiting then
      match ranges with
      | (a, _) :: others =>
        if c < a then .error (.invalidRange a c) else classRanges false false ((a, c) :: others) rest
      | [] => classRanges false false [(c, c)] rest
    else classRanges false false ((c, c) :: ranges) rest

/-- The class behind an opening bracket. -/
def parseClass (cs : List Char) : Except Error (Token × List Char) := do
  let (negated, cs) := match cs with
    | '!' :: cs => (true, cs)
    | '^' :: cs => (true, cs)
    | cs => (false, cs)
  let (ranges, rest) ← classRanges true false [] cs
  return (.oneOf negated ranges.reverse, rest)

/-! ### Groups -/

/-- The pattern read so far: the tokens of the open branch, last first, and around it the open groups,
each with its finished branches, last first, and the tokens in front of it. -/
structure Open where
  tokens : List Token
  groups : List (List (List Token) × List Token)

namespace Open

def push (o : Open) (t : Token) : Open := { o with tokens := t :: o.tokens }

def openGroup (o : Open) : Open := ⟨[], ([], o.tokens) :: o.groups⟩

/-- A comma: a further branch inside a group, a plain character outside. -/
def comma (o : Open) : Open :=
  match o.groups with
  | [] => o.push (.literal ',')
  | (branches, before) :: outer => ⟨[], (o.tokens.reverse :: branches, before) :: outer⟩

def closeGroup (o : Open) : Except Error Open :=
  match o.groups with
  | [] => .error .unopenedGroup
  | (branches, before) :: outer =>
    .ok ⟨.alternatives (o.tokens.reverse :: branches).reverse :: before, outer⟩

def twoStars (o : Open) : Open := (o.push .star).push .star

/-- Two stars where tokens stand before them: directories if they start a component and end it. -/
def innerStars (o : Open) (previous : Option Char) (next : List Char) : Open × List Char :=
  let inGroup := !o.groups.isEmpty
  let startsComponent := previous == some '/' ||
    (inGroup && (previous == some ',' || previous == some '\x7b'))
  let dirs (t : Token) : Open :=
    match o.tokens with
    | .leadingDirs :: _ => o
    | .trailingDirs :: _ => o
    | _ :: before => { o with tokens := t :: before }
    | [] => o.push t
  if !startsComponent then (o.twoStars, next)
  else
    match next with
    | [] => (dirs .trailingDirs, [])
    | '/' :: rest => (dirs .innerDirs, rest)
    | c :: rest =>
      if inGroup && (c == ',' || c == '\x7d') then (dirs .trailingDirs, c :: rest)
      else (o.twoStars, c :: rest)

/-- Two stars at the start of a branch: directories if they make up a component. -/
def leadingStars (o : Open) (next : List Char) : Open × List Char :=
  match next with
  | [] => (o.push .leadingDirs, [])
  | '/' :: rest => (o.push .leadingDirs, rest)
  | next => (o.twoStars, next)

end Open

/-! ### Patterns -/

/-- Reads the characters into the tokens read so far. `previous` is the character before them. -/
def parseFrom : Nat → Option Char → List Char → Open → Except Error Open
  | 0, _, _, o => .ok o
  | _ + 1, _, [], o => .ok o
  | fuel + 1, previous, c :: cs, o =>
    match c with
    | '?' => parseFrom fuel (some c) cs (o.push .any)
    | '*' =>
      match cs with
      | '*' :: cs =>
        let (o, rest) := if o.tokens.isEmpty then o.leadingStars cs else o.innerStars previous cs
        let last := if rest.length < cs.length then some '/' else some '*'
        parseFrom fuel last rest o
      | cs => parseFrom fuel (some c) cs (o.push .star)
    | '[' => do
      let (t, rest) ← parseClass cs
      parseFrom fuel (some ']') rest (o.push t)
    | '\x7b' => parseFrom fuel (some c) cs o.openGroup
    | '\x7d' => do
      let o ← o.closeGroup
      parseFrom fuel (some c) cs o
    | '\\' =>
      match cs with
      | [] => .error .danglingEscape
      | e :: cs => parseFrom fuel (some e) cs (o.push (.literal e))
    | ',' => parseFrom fuel (some c) cs o.comma
    | c => parseFrom fuel (some c) cs (o.push (.literal c))

/-- The tokens of a pattern. -/
def parse (pattern : String) : Except Error (List Token) := do
  let cs := pattern.toList
  let o ← parseFrom (cs.length + 1) none cs ⟨[], []⟩
  if o.groups.isEmpty then return o.tokens.reverse else throw .unclosedGroup

end BuilderLint.Glob
