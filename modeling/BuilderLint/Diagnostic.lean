import BuilderLint.Fix
import BuilderLint.Text.Capital

/-! Issues and diagnostics. -/
namespace BuilderLint

inductive Severity where
  | error
  | warning
  | info
deriving DecidableEq, Repr

namespace Severity

def all : List Severity := [.error, .warning, .info]

def text : Severity → String
  | .error => "error"
  | .warning => "warning"
  | .info => "info"

/-- The severity of that name, in capital or small letters. -/
def ofText? (s : String) : Option Severity :=
  all.find? fun severity => severity.text == Text.lowercase s

end Severity

inductive Category where
  | correctness
  | usability
deriving DecidableEq, Repr

namespace Category

def all : List Category := [.correctness, .usability]

def text : Category → String
  | .correctness => "correctness"
  | .usability => "usability"

end Category

/-- A kind of problem that is reported. -/
structure Issue where
  id : String
  brief : String
  explanation : String
  category : Category
  /-- From 1, the lowest, to 10. -/
  priority : UInt8
  severity : Severity
deriving DecidableEq, Repr

namespace Issue

/-- A lambda uses no member of a mandatory group. -/
def mandatory : Issue where
  id := "DSLMandatory"
  brief := "Mandatory DSL property not defined"
  explanation := "Mandatory DSL property not defined"
  category := .correctness
  priority := 6
  severity := .error

/-- All issues that are reported. -/
def all : List Issue := [mandatory]

end Issue

/-- A problem found in a lambda. -/
structure Diagnostic where
  /-- The issue's id. -/
  issue : String
  severity : Severity
  file : String
  /-- The whole lambda. -/
  span : Span
  message : String
  fix : Option Fix := none
deriving DecidableEq, Repr

namespace Diagnostic

/-- All edits that are offered, in order. -/
def replacements (d : Diagnostic) : List Replacement :=
  (d.fix.map Fix.replacements).getD []

/-- Whether one diagnostic may stand before another: by file, then line, then column. -/
def notAfter (a b : Diagnostic) : Bool :=
  a.file < b.file ||
    (a.file == b.file &&
      (a.span.startLine < b.span.startLine ||
        (a.span.startLine == b.span.startLine && a.span.startCol ≤ b.span.startCol)))

end Diagnostic
end BuilderLint
