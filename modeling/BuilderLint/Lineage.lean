import BuilderLint.Facts.Basic
import BuilderLint.MarkNames

/-! Classes and what they inherit.

A name stands for the first class declared under it. The lineage of a class is
the class itself and all it inherits from, depth first through the supertypes as
they are listed, each class once. A class is a root when it carries the root mark
or extends, through extension marks, a class that does. -/
namespace BuilderLint

namespace ClassDecl

/-- The first class of that name. -/
def find? (classes : List ClassDecl) (name : String) : Option ClassDecl :=
  List.find? (fun c => c.name == name) classes

/-! ### Lineage -/

/-- The first pending name that stands for a class not seen yet: that class, and the names behind it. -/
def nextUnseen? (classes seen : List ClassDecl) : List String → Option (ClassDecl × List String)
  | [] => none
  | name :: rest =>
    match find? classes name with
    | some c =>
      if seen.any (·.name == c.name) then nextUnseen? classes seen rest else some (c, rest)
    | none => nextUnseen? classes seen rest

/-- Visits at most `n` further classes, the supertypes of a visited class before all other pending
names. -/
def walk (classes : List ClassDecl) : Nat → List ClassDecl → List String → List ClassDecl
  | 0, seen, _ => seen
  | n + 1, seen, pending =>
    match nextUnseen? classes seen pending with
    | none => seen
    | some (c, rest) => walk classes n (seen ++ [c]) (c.supertypes ++ rest)

/-- The class of that name and all it inherits from. No more classes can be visited than there are. -/
def lineage (classes : List ClassDecl) (name : String) : List ClassDecl :=
  walk classes classes.length [] [name]

end ClassDecl

/-- A class with its own and its inherited methods. -/
structure ResolvedClass where
  decl : ClassDecl
  methods : List MethodDecl

namespace ClassDecl

/-- The class of that name, its methods followed by the inherited ones; a method that is declared
again keeps both places. -/
def resolve? (classes : List ClassDecl) (name : String) : Option ResolvedClass :=
  (find? classes name).map fun c => ⟨c, (lineage classes name).flatMap methods⟩

/-! ### Roots -/

def isMarked (c : ClassDecl) (mark : String) : Bool := (Mark.find? c.marks mark).isSome

/-- The class that this one extends. -/
def extended? (names : MarkNames) (classes : List ClassDecl) (c : ClassDecl) : Option ClassDecl := do
  let mark ← Mark.find? c.marks names.extension
  let name ← mark.text? extensionForAttribute
  find? classes name

/-- Whether a class with the root mark is met within `n` extensions. -/
def meetsRoot (names : MarkNames) (classes : List ClassDecl) : Nat → ClassDecl → Bool
  | 0, c => c.isMarked names.root
  | n + 1, c =>
    c.isMarked names.root ||
      match extended? names classes c with
      | some parent => meetsRoot names classes n parent
      | none => false

/-- Whether the name stands for a root. More extensions than there are classes only go round. -/
def isRoot (names : MarkNames) (classes : List ClassDecl) (name : String) : Bool :=
  match find? classes name with
  | some c => meetsRoot names classes classes.length c
  | none => false

end ClassDecl
end BuilderLint
