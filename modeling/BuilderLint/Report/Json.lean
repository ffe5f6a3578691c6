import BuilderLint.Outcome.Json

/-! The JSON report.

A flat view of an outcome for other programs. Empty lists of fixes and of
suppressed diagnostics are left out. -/
namespace BuilderLint

/-- The version of the program. -/
def programVersion : String := "0.1.0"

namespace Report
open Json (Value Decoder Shape)

structure FixItem where
  label : String
  old : String
  new : String
  reformat : Bool

structure Item where
  issue : String
  severity : String
  file : String
  line : UInt64
  column : UInt64
  message : String
  fixes : List FixItem

end Report

/-- A report on an outcome. -/
structure Report where
  version : String
  path : String
  passed : Bool
  filesScanned : UInt64
  lambdasVisited : UInt64
  diagnostics : List Report.Item
  suppressed : List Report.Item
  suppressedCount : UInt64

namespace Report
open Json (Value Decoder Shape)

/-! ### Building -/

def FixItem.ofReplacement (r : Replacement) : FixItem :=
  ⟨r.label, r.oldText, r.newText, r.reformat⟩

def Item.ofDiagnostic (d : Diagnostic) : Item where
  issue := d.issue
  severity := d.severity.text
  file := d.file
  line := d.span.startLine
  column := d.span.startCol
  message := d.message
  fixes := d.replacements.map FixItem.ofReplacement

/-- The report on an outcome at a path. -/
def ofOutcome (path : String) (o : Outcome) : Report where
  version := programVersion
  path
  passed := !o.hasErrors
  filesScanned := o.scanned
  lambdasVisited := o.visited
  diagnostics := o.diagnostics.map Item.ofDiagnostic
  suppressed := o.suppressed.map Item.ofDiagnostic
  suppressedCount := UInt64.ofNat o.suppressed.length

/-! ### Encoding -/

def FixItem.encode (f : FixItem) : Value := .object [
  ("label", .string f.label),
  ("old", .string f.old),
  ("new", .string f.new),
  ("reformat", .bool f.reformat)]

def Item.encode (i : Item) : Value := .object ([
  ("issue", .string i.issue),
  ("severity", .string i.severity),
  ("file", .string i.file),
  ("line", .ofWord i.line),
  ("column", .ofWord i.column),
  ("message", .string i.message)] ++
  memberIf (!i.fixes.isEmpty) "fixes" (.ofList FixItem.encode i.fixes))

def encode (r : Report) : Value := .object ([
  ("version", .string r.version),
  ("path", .string r.path),
  ("passed", .bool r.passed),
  ("files_scanned", .ofWord r.filesScanned),
  ("lambdas_visited", .ofWord r.lambdasVisited),
  ("diagnostics", .ofList Item.encode r.diagnostics)] ++
  memberIf (!r.suppressed.isEmpty) "suppressed" (.ofList Item.encode r.suppressed) ++
  [("suppressed_count", .ofWord r.suppressedCount)])

/-! ### Decoding -/

def FixItem.shape : Shape := ⟨"struct JsonFix", ["label", "old", "new", "reformat"]⟩

def FixItem.decode : Decoder FixItem := .record shape fun row =>
  FixItem.mk <$> row.required "label" .string
    <*> row.required "old" .string
    <*> row.required "new" .string
    <*> row.required "reformat" .bool

def Item.shape : Shape :=
  ⟨"struct JsonDiagnostic", ["issue", "severity", "file", "line", "column", "message", "fixes"]⟩

def Item.decode : Decoder Item := .record shape fun row =>
  Item.mk <$> row.required "issue" .string
    <*> row.required "severity" .string
    <*> row.required "file" .string
    <*> row.required "line" .word
    <*> row.required "column" .word
    <*> row.required "message" .string
    <*> row.withDefault "fixes" (.list FixItem.decode) []

def shape : Shape := ⟨"struct JsonReport", ["version", "path", "passed", "files_scanned",
  "lambdas_visited", "diagnostics", "suppressed", "suppressed_count"]⟩

def decode : Decoder Report := .record shape fun row =>
  Report.mk <$> row.required "version" .string
    <*> row.required "path" .string
    <*> row.required "passed" .bool
    <*> row.required "files_scanned" .word
    <*> row.required "lambdas_visited" .word
    <*> row.required "diagnostics" (.list Item.decode)
    <*> row.withDefault "suppressed" (.list Item.decode) []
    <*> row.required "suppressed_count" .word

end Report
end BuilderLint
