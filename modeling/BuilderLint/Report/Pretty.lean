import BuilderLint.Report.Json
import BuilderLint.Report.Style

/-! The report for people. -/
namespace BuilderLint.Report

/-- How a report is shown. -/
structure View where
  colours : Bool := false
  /-- Whether suppressed diagnostics are shown one by one. -/
  showSuppressed : Bool := false

namespace View

def count (items : List Diagnostic) : String := toString items.length

def heading (v : View) (path : String) : String :=
  "\n  " ++ Style.boldCyan.paint v.colours "dslint" ++ " v" ++ programVersion ++ "\n\n  " ++
    Style.dimmed.paint v.colours "Scanning: " ++ path ++ "\n\n"

def summary (v : View) (o : Outcome) : String :=
  let verdict := if o.hasErrors then Style.red.paint v.colours "✗ FAIL"
    else Style.green.paint v.colours "✓ PASS"
  let suppressed := if o.suppressed.isEmpty then ""
    else "  " ++ Style.dimmed.paint v.colours ("(" ++ count o.suppressed ++ " suppressed)")
  "  " ++ verdict ++ "  " ++ toString o.scanned.toNat ++ " file(s), " ++
    toString o.visited.toNat ++ " DSL lambda(s), " ++ count o.diagnostics ++ " issue(s)" ++
    suppressed ++ "\n"

def severityTag (v : View) : Severity → String
  | .error => Style.red.paint v.colours "ERROR"
  | .warning => Style.yellow.paint v.colours "WARN "
  | .info => Style.blue.paint v.colours "INFO "

def place (v : View) (d : Diagnostic) : String :=
  Style.dimmed.paint v.colours (":" ++ d.span.text)

def margin : String := "            "

/-- A diagnostic with its fixes. -/
def diagnostic (v : View) (d : Diagnostic) : String :=
  let position := if d.span.startLine = 0 then "" else v.place d
  let fixes := d.replacements.map fun r =>
    margin ++ Style.green.paint v.colours "fix:" ++ " " ++ r.label ++ "\n"
  "    " ++ v.severityTag d.severity ++ "    " ++ Style.dimmed.paintTo 14 v.colours d.issue ++
    Style.blue.paint v.colours d.file ++ position ++ "\n" ++ margin ++ d.message ++ "\n" ++
    String.join fixes ++ "\n"

def diagnostics (v : View) (ds : List Diagnostic) : String :=
  if ds.isEmpty then ""
  else "  " ++ Style.bold.paint v.colours "Diagnostics" ++ " (" ++ count ds ++ "):\n\n" ++
    String.join (ds.map v.diagnostic)

def suppressedDiagnostic (v : View) (d : Diagnostic) : String :=
  "    " ++ Style.dimmed.paintTo 14 v.colours d.issue ++ Style.blue.paint v.colours d.file ++
    v.place d ++ "\n" ++ margin ++ Style.dimmed.paint v.colours d.message ++ "\n"

def suppressed (v : View) (ds : List Diagnostic) : String :=
  if ds.isEmpty then ""
  else
    let details := if v.showSuppressed then "\n" ++ String.join (ds.map v.suppressedDiagnostic)
      else "    " ++ Style.dimmed.paint v.colours "(use --show-suppressed to see details)" ++ "\n"
    "  " ++ Style.dimmed.paint v.colours "Suppressed" ++ " (" ++ count ds ++ "):\n" ++ details ++
      "\n"

/-- The report on an outcome at a path. -/
def render (v : View) (path : String) (o : Outcome) : String :=
  v.heading path ++ v.summary o ++ "\n" ++ v.diagnostics o.diagnostics ++ v.suppressed o.suppressed

end View
end BuilderLint.Report
