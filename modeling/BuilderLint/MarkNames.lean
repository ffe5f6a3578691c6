/-! The marks that the checks look for.

Classes and methods are marked with annotations of one package. The package is
configurable, the simple names are not. -/
namespace BuilderLint

/-- The package the annotations live in unless another one is configured. -/
def defaultPackage : String := "com.hananrh.dslint.annotations"

/-- The marks with a meaning to the checks. -/
inductive MarkKind where
  /-- On a class: lambdas that configure it are checked. -/
  | root
  /-- On a method: it has to be used in every such lambda. -/
  | mandatory
  /-- On a class: it extends another class whose lambdas are checked. -/
  | extension
deriving DecidableEq, Repr

namespace MarkKind

def all : List MarkKind := [.root, .mandatory, .extension]

def simpleName : MarkKind → String
  | .root => "DSLint"
  | .mandatory => "DSLMandatory"
  | .extension => "DSLExtension"

def qualifiedName (kind : MarkKind) (package : String) : String :=
  package ++ "." ++ kind.simpleName

end MarkKind

/-- The qualified names of the marks. -/
structure MarkNames where
  root : String
  mandatory : String
  extension : String
deriving DecidableEq, Repr

namespace MarkNames

def ofPackage (package : String) : MarkNames where
  root := MarkKind.root.qualifiedName package
  mandatory := MarkKind.mandatory.qualifiedName package
  extension := MarkKind.extension.qualifiedName package

def get (names : MarkNames) : MarkKind → String
  | .root => names.root
  | .mandatory => names.mandatory
  | .extension => names.extension

end MarkNames

/-! ### Attributes -/

/-- The attribute of a mandatory mark that names its group. -/
def groupAttribute : String := "group"

/-- The attribute of a mandatory mark that holds a message of its own. -/
def messageAttribute : String := "message"

/-- The attribute of an extension mark that names the extended class. -/
def extensionForAttribute : String := "extensionFor"

end BuilderLint
