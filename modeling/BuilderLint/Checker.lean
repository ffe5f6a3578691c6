import BuilderLint.Config.Basic
import BuilderLint.Detector
import BuilderLint.Facts.Load
import BuilderLint.Lineage
import BuilderLint.Outcome
import BuilderLint.Suppression

/-! Checking documents.

A lambda is checked when its file is not excluded and its receiver is a root. The
outcomes of its document's lambdas, and of all documents, are merged in order. -/
namespace BuilderLint

/-- A configuration ready for use. -/
structure Checker where
  detector : Detector
  excluded : Glob.PatternSet
  /-- Whether the issue is reported at all. -/
  enabled : Bool

namespace Checker

/-- The checker for a configuration that can be used. -/
def ofConfig (c : Config) : Except ConfigError Checker := do
  c.validate
  let excluded ← c.excluded
  let names := c.markNames
  let detector : Detector := { names, severity := c.severity.getD Issue.mandatory.severity }
  return { detector, excluded, enabled := !c.isDisabled Issue.mandatory.id }

def isRoot (c : Checker) (classes : List ClassDecl) (name : String) : Bool :=
  ClassDecl.isRoot c.detector.names classes name

/-- The outcome of one lambda; the fallback is its file when it names none. -/
def checkLambda (c : Checker) (classes : List ClassDecl) (fallback : String) (l : Lambda) :
    Outcome :=
  let file := l.fileOr fallback
  if c.excluded.isMatch file || !c.isRoot classes l.receiver then {}
  else
    match ClassDecl.resolve? classes l.receiver with
    | none => {}
    | some receiver =>
      let found := c.detector.check ⟨file, l.span, l.statements⟩ receiver.methods
      let (diagnostics, suppressed) := splitSuppressed l.suppress found
      { diagnostics, suppressed, visited := 1 }

/-- The outcome of a document's lambdas. -/
def checkDocument (c : Checker) (d : Document) (fallback : String) : Outcome :=
  if c.enabled then
    d.lambdas.foldl (fun o l => o.merge (c.checkLambda d.classes fallback l)) {}
  else {}

/-- The outcome of a document that is loaded from a path. -/
def checkPath (c : Checker) (load : String → Except LoadError Document) (path : String) :
    Except LoadError Outcome :=
  (load path).map fun d => { c.checkDocument d path with scanned := 1 }

/-- The outcome of all documents that can be loaded, sorted. -/
def run (c : Checker) (load : String → Except LoadError Document) (paths : List String) :
    Outcome :=
  let outcomes := paths.filterMap fun path => (c.checkPath load path).toOption
  (outcomes.foldl Outcome.merge {}).sort

end Checker
end BuilderLint
