import BuilderLint.Text.Capital

/-! Naming conventions.

A convention says which property a method sets by its name, if it is a setter.
The bean convention takes `setTimeout` for the setter of `timeout`; a leading
acronym keeps its capitals, so `setURL` sets `URL`. -/
namespace BuilderLint

/-- Which property a method sets, by its name. -/
structure Naming where
  property? : String → Option String

namespace Naming

/-! ### Beans -/

/-- The part of a setter's name behind `set`: it starts with a capital. -/
def setterPart? : List Char → Option (List Char)
  | 's' :: 'e' :: 't' :: c :: rest => if Text.isCapital c then some (c :: rest) else none
  | _ => none

/-- The first letter in its small form, unless the second is a capital too. -/
def decapitalize : List Char → List Char
  | [] => []
  | [c] => Text.small c
  | c :: d :: rest =>
    if Text.isCapital c && Text.isCapital d then c :: d :: rest else Text.small c ++ d :: rest

/-- Whether a name is a setter's. -/
def isSetter (name : String) : Bool := (setterPart? name.toList).isSome

/-- The property a bean setter sets. -/
def beanProperty? (name : String) : Option String :=
  (setterPart? name.toList).map fun part => String.ofList (decapitalize part)

def bean : Naming := ⟨beanProperty?⟩

/-! ### Tables -/

/-- A convention given method by method; methods outside the table are no setters. -/
def ofTable (table : List (String × String)) : Naming where
  property? name := (table.find? fun e => e.1 == name).map Prod.snd

end Naming
end BuilderLint
