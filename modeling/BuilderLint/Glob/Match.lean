import BuilderLint.Glob.Pattern

/-! Matching paths against patterns.

Paths are matched byte by byte and as a whole. A token leaves a set of remainders
of the path; a list of tokens matches when the empty remainder is among those it
leaves. Some patterns look at the last component of the path as well: it has to
be the literal that the pattern consists of, or to have the pattern's extension. -/
namespace BuilderLint.Glob

/-- The bytes of a path. -/
abbrev Bytes := List UInt8

def bytesOf (s : String) : Bytes := s.toUTF8.toList

def charBytes (c : Char) : Bytes := bytesOf c.toString

def slash : UInt8 := '/'.toUInt8
def dot : UInt8 := '.'.toUInt8

/-! ### Remainders -/

/-- All remainders, the whole included. -/
def suffixes : Bytes → List Bytes
  | [] => [[]]
  | b :: rest => (b :: rest) :: suffixes rest

/-- The remainders right behind a slash. -/
def afterSlashes : Bytes → List Bytes
  | [] => []
  | b :: rest => if b = slash then rest :: afterSlashes rest else afterSlashes rest

def afterLiteral : Bytes → Bytes → List Bytes
  | [], bytes => [bytes]
  | _ :: _, [] => []
  | a :: literal, b :: rest => if a = b then afterLiteral literal rest else []

/-- The bytes that a range of a class stands for, as closed ranges. Only its outermost bytes make up a
range; further bytes of its two ends stand for themselves. -/
def byteRanges (range : Char × Char) : List (UInt8 × UInt8) :=
  let single (b : UInt8) := (b, b)
  let first := charBytes range.1
  let last := charBytes range.2
  if range.1 = range.2 then first.map single
  else
    first.dropLast.map single ++ [(first.getLastD 0, last.headD 0)] ++ (last.drop 1).map single

def classHolds (negated : Bool) (ranges : List (Char × Char)) (b : UInt8) : Bool :=
  negated != ranges.any fun range =>
    (byteRanges range).any fun (first, last) => first ≤ b && b ≤ last

/-- Remainders of one path without repetition: one for each length. -/
def distinct (rests : List Bytes) : List Bytes :=
  rests.eraseDupsBy fun a b => a.length == b.length

mutual

/-- Whether a token never takes a byte, being a group of nothing but empty branches. -/
def Token.isVoid : Token → Bool
  | .alternatives branches => allVoid branches
  | _ => false

def branchVoid : List Token → Bool
  | [] => true
  | t :: rest => t.isVoid && branchVoid rest

def allVoid : List (List Token) → Bool
  | [] => true
  | tokens :: rest => branchVoid tokens && allVoid rest

end

mutual

/-- The remainders that a token leaves of a path. -/
def Token.rests : Token → Bytes → List Bytes
  | .literal c, bytes => afterLiteral (charBytes c) bytes
  | .any, bytes =>
    match bytes with
    | [] => []
    | _ :: rest => [rest]
  | .star, bytes => suffixes bytes
  | .leadingDirs, bytes => bytes :: afterSlashes bytes
  | .trailingDirs, bytes =>
    match bytes with
    | [] => []
    | b :: rest => if b = slash then suffixes rest else []
  | .innerDirs, bytes =>
    match bytes with
    | [] => []
    | b :: rest => if b = slash then rest :: afterSlashes rest else []
  | .oneOf negated ranges, bytes =>
    match bytes with
    | [] => []
    | b :: rest => if classHolds negated ranges b then [rest] else []
  | .alternatives branches, bytes =>
    if allVoid branches then [bytes] else branchRests branches bytes

/-- The remainders that tokens in a row leave of any of the paths. -/
def rowRests : List Token → List Bytes → List Bytes
  | [], paths => paths
  | t :: rest, paths => rowRests rest (distinct (paths.flatMap t.rests))

/-- The remainders that any branch leaves; an empty branch is none. -/
def branchRests : List (List Token) → Bytes → List Bytes
  | [], _ => []
  | tokens :: rest, bytes =>
    if branchVoid tokens then branchRests rest bytes
    else rowRests tokens [bytes] ++ branchRests rest bytes

end

/-! ### The last component -/

/-- What stands behind the last slash; the parent directory has no name. -/
def fileName? (path : Bytes) : Option Bytes :=
  let name := (path.reverse.takeWhile (· != slash)).reverse
  if path.isEmpty || name == [dot, dot] then none else some name

/-- A name from its last dot on. -/
def extension? (name : Bytes) : Option Bytes :=
  if name.contains dot then
    some (dot :: (name.reverse.takeWhile (· != dot)).reverse)
  else none

/-- What a pattern asks of the last component. -/
inductive LastComponent where
  | anything
  | named (name : Bytes)
  | withExtension (extension : Bytes)

/-- The characters of tokens that are all literal. -/
def literal? : List Token → Option (List Char)
  | [] => some []
  | .literal c :: rest => (literal? rest).map (c :: ·)
  | _ :: _ => none

/-- The extension that a pattern ends with: literal characters from the last dot on, none a slash. -/
def endingExtension? (tokens : List Token) : Option (List Char) :=
  match literal? (tokens.reverse.takeWhile isPlain) with
  | none => none
  | some reversed =>
    match (tokens.reverse.dropWhile isPlain) with
    | .literal '.' :: _ => some ('.' :: reversed.reverse)
    | _ => none
where
  isPlain : Token → Bool
    | .literal c => c != '.' && c != '/'
    | _ => false

/-- Stars alone at one end of literal characters: nothing is asked of the last component then. -/
def isLiteralEnd (tokens : List Token) : Bool :=
  let isSome (o : Option (List Char)) : Bool := o.isSome
  let front : Bool := match tokens.reverse with
    | .star :: rest => isSome (literal? rest) && !rest.isEmpty
    | .trailingDirs :: rest => isSome (literal? rest)
    | _ => isSome (literal? tokens)
  let back : Bool := match tokens with
    | .leadingDirs :: .star :: rest => ends rest
    | .leadingDirs :: rest => isSome (literal? rest) && !rest.isEmpty
    | .star :: rest => ends rest
    | _ => false
  front || back
where
  ends (tokens : List Token) : Bool :=
    match literal? tokens with
    | some [] => false
    | some ['/'] => false
    | some _ => true
    | none => false

/-- What the pattern asks of the last component. -/
def lastComponent (tokens : List Token) : LastComponent :=
  let text (cs : List Char) : Bytes := bytesOf (String.ofList cs)
  let ending : LastComponent :=
    match endingExtension? tokens with
    | some ext => .withExtension (text ext)
    | none => .anything
  match tokens with
  | .leadingDirs :: rest =>
    match literal? rest with
    | some [] => .anything
    | some cs => if cs.contains '/' then .anything else .named (text cs)
    | none =>
      match rest with
      | .star :: .literal '.' :: ext => if isExtension ext then ending else unlessLiteral ending
      | _ => unlessLiteral ending
  | .star :: .literal '.' :: ext => if isExtension ext then ending else unlessLiteral ending
  | _ => unlessLiteral ending
where
  isExtension (tokens : List Token) : Bool :=
    match literal? tokens with
    | some cs => !cs.contains '.' && !cs.contains '/'
    | none => false
  unlessLiteral (ending : LastComponent) : LastComponent :=
    if isLiteralEnd tokens then .anything else ending

def LastComponent.holds (asked : LastComponent) (path : Bytes) : Bool :=
  match asked with
  | .anything => true
  | .named name => fileName? path == some name && !name.isEmpty
  | .withExtension ext => ((fileName? path).bind extension?) == some ext

/-! ### Patterns and sets of them -/

/-- Whether the tokens match the whole path. Two stars alone match everything. -/
def rowMatches (tokens : List Token) (path : Bytes) : Bool :=
  match tokens with
  | [.leadingDirs] => true
  | tokens => (rowRests tokens [path]).any (·.isEmpty)

/-- A pattern that has been read. -/
structure Pattern where
  tokens : List Token

namespace Pattern

def ofText (text : String) : Except Error Pattern := (parse text).map Pattern.mk

def isMatch (p : Pattern) (path : String) : Bool :=
  let bytes := bytesOf path
  (lastComponent p.tokens).holds bytes && rowMatches p.tokens bytes

end Pattern

/-- A pattern that cannot be read. -/
structure Invalid where
  pattern : String
  error : Error

namespace Invalid

def message (e : Invalid) : String :=
  "error parsing glob '" ++ e.pattern ++ "': " ++ e.error.reason

end Invalid

/-- Several patterns; a path matches the set when it matches one of them. -/
structure PatternSet where
  patterns : List Pattern

namespace PatternSet

/-- The set of the patterns, or the first one that cannot be read. -/
def ofTexts : List String → Except Invalid PatternSet
  | [] => .ok ⟨[]⟩
  | text :: rest =>
    match Pattern.ofText text with
    | .error e => .error ⟨text, e⟩
    | .ok p => (ofTexts rest).map fun set => ⟨p :: set.patterns⟩

def isMatch (set : PatternSet) (path : String) : Bool :=
  set.patterns.any (·.isMatch path)

end PatternSet
end BuilderLint.Glob
