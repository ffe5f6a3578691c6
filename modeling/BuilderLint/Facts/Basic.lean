import BuilderLint.Json.Value
import BuilderLint.OrderedMap

/-! Facts about a source file.

A front end writes down the classes of a file, with their supertypes, marks and
methods, and the lambdas that configure an object of one of them. Everything the
checks know of the source is in such a document. -/
namespace BuilderLint

/-- A place in a source file; lines and columns count from one, and zero is "not given". -/
structure Span where
  startLine : UInt64 := 0
  startCol : UInt64 := 0
  endLine : UInt64 := 0
  endCol : UInt64 := 0
deriving DecidableEq, Repr

namespace Span

/-- Where the span starts, as `line:column`. -/
def text (s : Span) : String :=
  toString s.startLine.toNat ++ ":" ++ toString s.startCol.toNat

end Span

/-- The left-hand side of an assignment. -/
inductive Target where
  /-- A bare name, as in `timeout = 30`. -/
  | identifier (name : String)
  /-- Anything else, as in `other.timeout = 30`. -/
  | expression (text : String)
deriving DecidableEq, Repr

namespace Target

/-- The name assigned to, when it is a bare one. -/
def name? : Target → Option String
  | .identifier name => some name
  | .expression _ => none

end Target

/-- A statement of a lambda's body. -/
inductive Statement where
  | assignment (target : Target)
  | call (name : String)
  /-- Nested control flow, with its statements. -/
  | block (label : Option String) (statements : List Statement)
  | other (text : Option String)
deriving Repr

namespace Statement

/-- The bare name the statement assigns to. -/
def assigned? : Statement → Option String
  | .assignment target => target.name?
  | _ => none

/-- The name the statement calls. -/
def called? : Statement → Option String
  | .call name => some name
  | _ => none

/-- The name the statement sets or calls. -/
def name? (s : Statement) : Option String := s.assigned? <|> s.called?

def assign (name : String) : Statement := .assignment (.identifier name)

end Statement

/-- A mark on a class or a method, with its attributes. -/
structure Mark where
  name : String
  attributes : OrderedMap Json.Value := ∅

namespace Mark

/-- The text under an attribute; nothing when the attribute is absent or no text. -/
def text? (m : Mark) (key : String) : Option String :=
  (m.attributes.get? key).bind Json.Value.text?

/-- The first mark of that name. -/
def find? (marks : List Mark) (name : String) : Option Mark :=
  List.find? (fun m => m.name == name) marks

end Mark

structure MethodDecl where
  name : String
  marks : List Mark := []

structure ClassDecl where
  name : String
  /-- Direct supertypes, nearest first. -/
  supertypes : List String := []
  marks : List Mark := []
  methods : List MethodDecl := []

/-- A lambda that configures an object of the receiver class. -/
structure Lambda where
  /-- The source file; empty when it is the one the document stands for. -/
  file : String := ""
  receiver : String
  span : Span := {}
  /-- Ids of the issues that are not to be reported on this lambda. -/
  suppress : List String := []
  statements : List Statement := []

namespace Lambda

/-- The file the lambda lives in. -/
def fileOr (l : Lambda) (fallback : String) : String :=
  if l.file.isEmpty then fallback else l.file

end Lambda

/-- All facts about a source file. -/
structure Document where
  classes : List ClassDecl := []
  lambdas : List Lambda := []

end BuilderLint
