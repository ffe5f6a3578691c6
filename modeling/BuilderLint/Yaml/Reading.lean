import BuilderLint.Json.Draft
import BuilderLint.Yaml.Typed

/-! Reading values off the nodes of a YAML text.

Collections may be nested 128 deep, and aliases may be followed a hundred times as
often as the text has events, so a text that refers to itself comes to an end.
What nobody asks for is not looked at and bounded by neither. -/
namespace BuilderLint.Yaml
open Json (Value Draft)

/-- A step that may follow aliases, which are counted, and may fail. -/
abbrev Reading := ReaderT Tree (StateT Nat Option)

/-- Reads a node with so many levels of collections to go. -/
abbrev NodeReader (α : Type) := Nat → Node → Reading α

/-- The node itself, behind an alias if there is one. -/
def Node.follow : Node → Reading Node
  | .alias n => do
    let tree ← read
    let jumps ← get
    if 100 * tree.events ≤ jumps then failure
    set (jumps + 1)
    match tree.anchors.find? fun e => e.1 == n with
    | some (_, node) => return node
    | none => failure
  | node => pure node

namespace NodeReader
variable {α : Type}

/-! ### Scalars -/

/-- Any scalar, as it is written. -/
def text : NodeReader String
  | _, node => do
    match ← node.follow with
    | .scalar _ _ s => return s
    | _ => failure

/-- A plain whole number; a literal one needs a tag. -/
def word : NodeReader UInt64
  | _, node => do
    match ← node.follow with
    | .scalar tag style s =>
      if style == .plain || (style == .literal && tag == some (Typed.coreTag "int")) then
        match Typed.word? s with
        | some n => return n
        | none => failure
      else failure
    | _ => failure

/-- Whether a node stands for nothing; `none` when its tag says so and its text does not. -/
def isNull? : Node → Option Bool
  | .scalar tag .plain s =>
    match tag with
    | none => some (s.isEmpty || Typed.isNullWord s)
    | some t =>
      if t == Typed.coreTag "null" then (if Typed.isNullWord s then some true else none)
      else some false
  | _ => some false

/-- A value that may be null. -/
def optional (reader : NodeReader α) : NodeReader (Option α)
  | levels, node => do
    let node ← node.follow
    match isNull? node with
    | some true => return none
    | some false => return some (← reader levels node)
    | none => failure

/-- One of several names, as a scalar or as the tag of an empty one. -/
def choice (choices : List (String × α)) : NodeReader α
  | _, node => do
    let named (name : String) : Reading α :=
      match choices.find? fun c => c.1 == name with
      | some c => return c.2
      | none => failure
    match ← node.follow with
    | .scalar tag style s =>
      if Typed.isLocalTag tag then
        if style == .plain && (s.isEmpty || Typed.isNullWord s) then
          named ((tag.getD "").drop 1).toString
        else failure
      else named s
    | _ => failure

/-! ### Collections -/

/-- Whether a node was left out: an empty plain scalar. -/
def isAbsent : Node → Bool
  | .scalar _ .plain s => s.isEmpty
  | _ => false

def list (reader : NodeReader α) : NodeReader (List α)
  | levels, node => do
    let node ← node.follow
    if isAbsent node then return []
    match node, levels with
    | .sequence _ items, levels + 1 => items.mapM (reader levels)
    | _, _ => failure

/-- The members of a record, by name, and the levels that are left inside it. -/
structure Members where
  levels : Nat
  members : List (String × Node)

def membersOf : NodeReader Members
  | levels, node => do
    let node ← node.follow
    if isAbsent node then return ⟨levels, []⟩
    match node, levels with
    | .mapping _ members, levels + 1 =>
      let named ← members.mapM fun (key, value) => do
        return (← text levels key, value)
      return ⟨levels, named⟩
    | _, _ => failure

namespace Members

/-- The value under a name that occurs at most once. -/
def find? (ms : Members) (name : String) : Reading (Option Node) :=
  match ms.members.filter fun m => m.1 == name with
  | [] => return none
  | [m] => return some m.2
  | _ => failure

def required (ms : Members) (name : String) (reader : NodeReader α) : Reading α := do
  match ← ms.find? name with
  | some node => reader ms.levels node
  | none => failure

def withDefault (ms : Members) (name : String) (reader : NodeReader α) (default : α) :
    Reading α := do
  match ← ms.find? name with
  | some node => reader ms.levels node
  | none => return default

end Members

/-! ### Any value -/

/-- The value of a scalar; a number that is not finite is null. -/
def scalarValue (tag : Option String) (style : Style) (s : String) : Reading Value :=
  match Typed.ofScalar? tag style s with
  | some .null => return .null
  | some (.bool b) => return .bool b
  | some (.whole n) => return .number (.whole n)
  | some (.real x) => return if x.isFinite then .number (.real x) else .null
  | some (.text s) => return .string s
  | none => failure

/-- The value of a node. -/
def value : NodeReader Value
  | 0, node => do
    match ← node.follow with
    | .scalar tag style s => scalarValue tag style s
    | _ => failure
  | levels + 1, node => do
    match ← node.follow with
    | .scalar tag style s => scalarValue tag style s
    | .sequence tag items =>
      if Typed.isLocalTag tag then failure
      return .array (← items.mapM (value levels))
    | .mapping tag members =>
      if Typed.isLocalTag tag then failure
      let entries ← members.mapM fun (key, node) => do
        return (← text levels key, ← value levels node)
      return .object (OrderedMap.ofList entries).entries
    | .alias _ => failure

/-- Values under names. -/
def map : NodeReader (OrderedMap Value)
  | levels, node => do
    let ms ← membersOf levels node
    let entries ← ms.members.mapM fun (name, node) => do
      return (name, ← value ms.levels node)
    return .ofList entries

/-- A scalar held in memory. -/
def scalarDraft (tag : Option String) (style : Style) (s : String) : Reading Draft :=
  match Typed.ofScalar? tag style s with
  | some .null => return .null
  | some (.bool b) => return .bool b
  | some (.whole n) => return .number (.whole n)
  | some (.real x) => return .number (.real x)
  | some (.text s) => return .string s
  | none => failure

/-- A node held in memory; its keys have types as well. -/
def draft : NodeReader Draft
  | 0, node => do
    match ← node.follow with
    | .scalar tag style s => scalarDraft tag style s
    | _ => failure
  | levels + 1, node => do
    match ← node.follow with
    | .scalar tag style s => scalarDraft tag style s
    | .sequence tag items =>
      if Typed.isLocalTag tag then failure
      return .array (← items.mapM (draft levels)) true
    | .mapping tag members =>
      if Typed.isLocalTag tag then failure
      let members ← members.mapM fun (key, node) => do
        return (← draft levels key, ← draft levels node)
      return .object members true
    | .alias _ => failure

/-- A tagged record held in memory: its tag, under the given name or in the first place, is taken as it
is written. -/
def taggedDraft (name : String) : NodeReader Draft
  | levels, node => do
    match ← node.follow, levels with
    | .sequence tag items, levels + 1 =>
      if Typed.isLocalTag tag then failure
      match items with
      | [] => return .array [] true
      | first :: rest =>
        let first ← text levels first
        return .array (.string first :: (← rest.mapM (draft levels))) true
    | .mapping tag members, levels + 1 =>
      if Typed.isLocalTag tag then failure
      let members ← members.mapM fun (key, node) => do
        let key ← draft levels key
        match key with
        | .string k =>
          if k == name then return (key, .string (← text levels node))
          else return (key, ← draft levels node)
        | _ => return (key, ← draft levels node)
      return .object members true
    | _, _ => failure

end NodeReader

/-- Reads a whole text; a text without a document reads as what was left out. -/
def readText? {α : Type} (reader : NodeReader α) (text : String) : Option α := do
  let tree ← Tree.ofText? text
  let (a, _) ← ((reader 128 (tree.root.getD .empty)).run tree).run 0
  return a

end BuilderLint.Yaml
