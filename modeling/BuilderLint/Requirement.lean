import BuilderLint.Facts.Basic
import BuilderLint.MarkNames
import BuilderLint.Naming
import BuilderLint.Text.Blank

/-! Requirements of a class.

Every method with the mandatory mark is a requirement: a property that has to be
assigned when the method is a setter, a function that has to be called otherwise.
Requirements with the same group are interchangeable; one without a group is
grouped under its own name. A method name makes one requirement at most, from its
first marked occurrence. -/
namespace BuilderLint

/-- How a requirement is met. -/
inductive RequirementKind where
  | function
  | property
deriving DecidableEq, Repr

namespace RequirementKind

def text : RequirementKind → String
  | .function => "function"
  | .property => "property"

end RequirementKind

/-- A property or function that lambdas have to use. -/
structure Requirement where
  /-- The property's name, or the method's name when it is no setter. -/
  name : String
  kind : RequirementKind
  group : Option String := none
  /-- What to report in place of the usual message. -/
  message : Option String := none
deriving DecidableEq, Repr

/-- Interchangeable requirements under the key of their group, in the order of discovery. -/
abbrev Groups := OrderedMap (List Requirement)

namespace Requirement

/-- The group that the requirement counts towards. -/
def key (r : Requirement) : String := r.group.getD r.name

/-- The requirement that a method is, if it is marked. A blank group or message is none. -/
def ofMethod? (names : MarkNames) (naming : Naming) (m : MethodDecl) : Option Requirement :=
  (Mark.find? m.marks names.mandatory).map fun mark =>
    let group := (mark.text? groupAttribute).bind Text.nonBlank
    let message := (mark.text? messageAttribute).bind Text.nonBlank
    match naming.property? m.name with
    | some property => ⟨property, .property, group, message⟩
    | none => ⟨m.name, .function, group, message⟩

/-- The requirements among the methods, each under the name of its method. -/
def byMethod (names : MarkNames) (naming : Naming) (methods : List MethodDecl) :
    OrderedMap Requirement :=
  .firstOfEach (methods.filterMap fun m => (ofMethod? names naming m).map fun r => (m.name, r))

/-- The requirements among the methods, one for each method name. -/
def ofMethods (names : MarkNames) (naming : Naming) (methods : List MethodDecl) :
    List Requirement :=
  (byMethod names naming methods).values

end Requirement

namespace Groups

/-- Adds a requirement at the end of its group. -/
def add (groups : Groups) (r : Requirement) : Groups :=
  groups.alter r.key fun members => members.getD [] ++ [r]

def ofRequirements (requirements : List Requirement) : Groups :=
  requirements.foldl add ∅

/-- The first group with a member of that name. -/
def keyOf? (groups : Groups) (name : String) : Option String :=
  (groups.entries.find? fun g => g.2.any fun r => r.name == name).map Prod.fst

end Groups
end BuilderLint
