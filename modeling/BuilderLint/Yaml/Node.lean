import BuilderLint.Yaml.TokenStream

/-! The nodes of a YAML text.

A text holds one document at most, and a document is one node. Anchored nodes are
kept in a table, and an alias is the number of an anchor: it may stand inside the
node it refers to. -/
namespace BuilderLint.Yaml

/-- A node; its tag is written out in full. -/
inductive Node where
  | scalar (tag : Option String) (style : Style) (text : String)
  | sequence (tag : Option String) (items : List Node)
  | mapping (tag : Option String) (members : List (Node × Node))
  | alias (anchor : Nat)

/-- What was not written: an empty plain scalar. -/
def Node.empty : Node := .scalar none .plain ""

/-- A document, its anchors, and the size of the text in events: the starts and ends of its nodes. -/
structure Tree where
  /-- Nothing when the text holds no document at all. -/
  root : Option Node
  anchors : List (Nat × Node)
  events : Nat

/-! ### Parsing -/

/-- What is left of the tokens and what was learnt from those before. -/
structure Parse where
  tokens : List Token
  /-- The numbers of the anchors by name. A number is the count of names before it. -/
  names : List (String × Nat) := []
  /-- The numbers given so far, last first. A number is given again when a name was set twice. -/
  numbers : List Nat := []
  /-- The anchored nodes by the order in which they start. -/
  anchored : List (Nat × Node) := []
  /-- What the handles of tags stand for. -/
  handles : List (String × String) := []
  events : Nat := 0

/-- A step that may fail and changes what is known. -/
abbrev Parser := StateT Parse Option

namespace Parser

def peek : Parser Token := do
  match (← get).tokens with
  | t :: _ => return t
  | [] => failure

def skip : Parser Unit := modify fun p => { p with tokens := p.tokens.drop 1 }

def count (n : Nat) : Parser Unit := modify fun p => { p with events := p.events + n }

/-- The token that comes next, if it is the one given. -/
def accept (t : Token) : Parser Bool := do
  if (← peek) == t then
    skip
    return true
  else return false

def expect (t : Token) : Parser Unit := do
  if !(← accept t) then failure

def nextIsOneOf (ts : List Token) : Parser Bool := do
  let t ← peek
  return ts.contains t

def emptyNode : Parser Node := do
  count 1
  return .empty

/-- Gives a name to the node that starts here. Returns how many anchored nodes start before it. -/
def nameAnchor (name : String) : Parser Nat := do
  let p ← get
  let number := p.names.length
  let others := p.names.filter fun e => e.1 != name
  set { p with names := (name, number) :: others, numbers := number :: p.numbers }
  return p.numbers.length

def keepAnchor (order : Option Nat) (node : Node) : Parser Unit :=
  match order with
  | some n => modify fun p => { p with anchored := (n, node) :: p.anchored }
  | none => pure ()

/-- A scalar. The tag `!` says no more than none. -/
def scalarNode (tag : Option String) (style : Style) (text : String) : Node :=
  .scalar (if tag == some "!" then none else tag) style text

/-- The full text of a tag. -/
def resolveTag (handle suffix : String) : Parser String := do
  if handle.isEmpty then return suffix
  match (← get).handles.find? fun e => e.1 == handle with
  | some (_, uri) => return uri ++ suffix
  | none => failure

/-- An anchor and a tag, in any order. -/
def properties : Parser (Option Nat × Option String) := do
  match ← peek with
  | .anchor name =>
    skip
    let anchor ← nameAnchor name
    match ← peek with
    | .tag handle suffix =>
      skip
      return (some anchor, some (← resolveTag handle suffix))
    | _ => return (some anchor, none)
  | .tag handle suffix =>
    skip
    match ← peek with
    | .anchor name =>
      skip
      let anchor ← nameAnchor name
      return (some anchor, some (← resolveTag handle suffix))
    | _ => return (none, some (← resolveTag handle suffix))
  | _ => return (none, none)

mutual

/-- A node. `block` admits block collections; `indentless` admits a sequence that is not indented. -/
def node : Nat → Bool → Bool → Parser Node
  | 0, _, _ => failure
  | fuel + 1, block, indentless => do
    match ← peek with
    | .alias name =>
      skip
      count 1
      match (← get).names.find? fun e => e.1 == name with
      | some (_, n) => return .alias n
      | none => failure
    | _ =>
      let (anchor, tag) ← properties
      let node ← match ← peek with
        | .scalar style text => do
          skip
          count 1
          pure (scalarNode tag style text)
        | .flowSequenceStart => do
          skip
          pure (Node.sequence tag (← flowItems fuel true []))
        | .flowMappingStart => do
          skip
          pure (Node.mapping tag (← flowMembers fuel true []))
        | t =>
          if indentless && t == .blockEntry then do
            pure (Node.sequence tag (← indentlessItems fuel []))
          else if block && t == .blockSequenceStart then do
            skip
            pure (Node.sequence tag (← blockItems fuel []))
          else if block && t == .blockMappingStart then do
            skip
            pure (Node.mapping tag (← blockMembers fuel []))
          else if anchor.isSome || tag.isSome then do
            count 1
            pure (Node.scalar tag .plain "")
          else failure
      keepAnchor anchor node
      return node

/-- A node, unless one of the tokens comes next, which leaves the node empty. -/
def nodeUnless : Nat → Bool → Bool → List Token → Parser Node
  | 0, _, _, _ => failure
  | fuel + 1, block, indentless, ends => do
    if ← nextIsOneOf ends then emptyNode else node fuel block indentless

def blockItems : Nat → List Node → Parser (List Node)
  | 0, _ => failure
  | fuel + 1, found => do
    if ← accept .blockEntry then
      let item ← nodeUnless fuel true false [.blockEntry, .blockEnd]
      blockItems fuel (item :: found)
    else
      expect .blockEnd
      count 2
      return found.reverse

def indentlessItems : Nat → List Node → Parser (List Node)
  | 0, _ => failure
  | fuel + 1, found => do
    if ← accept .blockEntry then
      let item ← nodeUnless fuel true false [.blockEntry, .key, .value, .blockEnd]
      indentlessItems fuel (item :: found)
    else
      count 2
      return found.reverse

def blockMembers : Nat → List (Node × Node) → Parser (List (Node × Node))
  | 0, _ => failure
  | fuel + 1, found => do
    if ← accept .key then
      let key ← nodeUnless fuel true true [.key, .value, .blockEnd]
      let value ← if ← accept .value then
          nodeUnless fuel true true [.key, .value, .blockEnd]
        else emptyNode
      blockMembers fuel ((key, value) :: found)
    else
      expect .blockEnd
      count 2
      return found.reverse

def flowItems : Nat → Bool → List Node → Parser (List Node)
  | 0, _, _ => failure
  | fuel + 1, first, found => do
    let ended ← accept .flowSequenceEnd
    if ended then
      count 2
      return found.reverse
    if !first then expect .flowEntry
    if ← accept .key then
      let member ← flowPair fuel
      flowItems fuel false (.mapping none [member] :: found)
    else if ← accept .flowSequenceEnd then
      count 2
      return found.reverse
    else
      let item ← node fuel false false
      flowItems fuel false (item :: found)

/-- A mapping of one member that stands in a sequence without braces. A member without a key takes
the token behind the key mark along. -/
def flowPair : Nat → Parser (Node × Node)
  | 0 => failure
  | fuel + 1 => do
    let keyIsEmpty ← nextIsOneOf [.value, .flowEntry, .flowSequenceEnd]
    let key ← if keyIsEmpty then do
        skip
        emptyNode
      else node fuel false false
    let value ← if ← accept .value then
        nodeUnless fuel false false [.flowEntry, .flowSequenceEnd]
      else emptyNode
    count 2
    return (key, value)

def flowMembers : Nat → Bool → List (Node × Node) → Parser (List (Node × Node))
  | 0, _, _ => failure
  | fuel + 1, first, found => do
    let ended ← accept .flowMappingEnd
    if ended then
      count 2
      return found.reverse
    if !first then expect .flowEntry
    if ← accept .key then
      let key ← nodeUnless fuel false false [.value, .flowEntry, .flowMappingEnd]
      let value ← if ← accept .value then
          nodeUnless fuel false false [.flowEntry, .flowMappingEnd]
        else emptyNode
      flowMembers fuel false ((key, value) :: found)
    else if ← accept .flowMappingEnd then
      count 2
      return found.reverse
    else
      let key ← node fuel false false
      let value ← emptyNode
      flowMembers fuel false ((key, value) :: found)

end

/-! ### Documents -/

/-- The directives in front of a document: one version at most, and no handle twice. -/
def directives : Nat → Bool → Parser Unit
  | 0, _ => failure
  | fuel + 1, hasVersion => do
    match ← peek with
    | .version major minor =>
      if hasVersion || major != 1 || (minor != 1 && minor != 2) then failure
      skip
      directives fuel true
    | .tagDirective handle uri =>
      if (← get).handles.any fun e => e.1 == handle then failure
      skip
      modify fun p => { p with handles := p.handles ++ [(handle, uri)] }
      directives fuel hasVersion
    | _ => return ()

/-- The handles that need no directive. -/
def defaultHandles : List (String × String) := [("!", "!"), ("!!", "tag:yaml.org,2002:")]

def isDirective : Token → Bool
  | .version _ _ => true
  | .tagDirective _ _ => true
  | _ => false

/-- Whether a document in front of the token has no node. -/
def endsDocument (t : Token) : Bool :=
  isDirective t || t == .documentStart || t == .documentEnd || t == .streamEnd

/-- The end of the text, behind any number of marks that end a document. -/
def streamEnd : Nat → Parser Unit
  | 0 => failure
  | fuel + 1 => do
    if ← accept .documentEnd then streamEnd fuel else expect .streamEnd

/-- The only document of a text. -/
def document (fuel : Nat) : Parser (Option Node) := do
  if (← peek) == .streamEnd then return none
  let first ← peek
  let explicit := isDirective first || first == .documentStart
  directives fuel false
  modify fun p => { p with handles := p.handles ++ defaultHandles }
  if explicit then expect .documentStart
  let root ← if explicit && endsDocument (← peek) then emptyNode else node fuel true false
  streamEnd fuel
  return some root

end Parser

/-- The anchored nodes by number: a number given again stands for the node that starts last. -/
def Parse.anchors (p : Parse) : List (Nat × Node) :=
  p.numbers.zipIdx.filterMap fun (number, i) =>
    (p.anchored.find? fun e => e.1 + i + 1 == p.numbers.length).map fun e => (number, e.2)

/-- The document of a text; nothing when the text is no YAML, holds a second document, or refers to an
anchor it does not set. -/
def Tree.ofText? (text : String) : Option Tree := do
  let tokens ← Token.scan? text
  let (root, p) ← (Parser.document (2 * tokens.length + 2)).run { tokens }
  return ⟨root, p.anchors, p.events⟩

end BuilderLint.Yaml
