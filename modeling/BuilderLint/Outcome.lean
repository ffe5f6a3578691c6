import BuilderLint.Diagnostic

/-! The outcome of checking documents.

Outcomes are merged by appending, and sorted by place with a stable sort, so that
the diagnostics of one lambda keep their order. -/
namespace BuilderLint

/-- What was found, and how much was looked at. -/
structure Outcome where
  diagnostics : List Diagnostic := []
  /-- Diagnostics that the lambdas themselves suppress. -/
  suppressed : List Diagnostic := []
  /-- The number of documents. -/
  scanned : UInt64 := 0
  /-- The number of lambdas with a root as receiver. -/
  visited : UInt64 := 0

namespace Outcome

def add (o : Outcome) (d : Diagnostic) : Outcome :=
  { o with diagnostics := o.diagnostics ++ [d] }

/-- One outcome followed by another. -/
def merge (a b : Outcome) : Outcome where
  diagnostics := a.diagnostics ++ b.diagnostics
  suppressed := a.suppressed ++ b.suppressed
  scanned := a.scanned + b.scanned
  visited := a.visited + b.visited

/-- Sorted by file, line and column. -/
def sort (o : Outcome) : Outcome :=
  { o with
    diagnostics := o.diagnostics.mergeSort Diagnostic.notAfter
    suppressed := o.suppressed.mergeSort Diagnostic.notAfter }

def hasErrors (o : Outcome) : Bool :=
  o.diagnostics.any fun d => d.severity == .error

end Outcome
end BuilderLint
