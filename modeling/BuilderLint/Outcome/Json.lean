import BuilderLint.Facts.Json
import BuilderLint.Outcome
import BuilderLint.Requirement

/-! Outcomes in JSON.

A diagnostic without a fix is written without the field; every other field is
always written. -/
namespace BuilderLint
open Json (Value Decoder Shape)

/-! ### Names -/

namespace Severity

def encode (s : Severity) : Value := .string s.text

def decode : Decoder Severity := .choice (all.map fun s => (s.text, s))

end Severity

namespace Category

def encode (c : Category) : Value := .string c.text

def decode : Decoder Category := .choice (all.map fun c => (c.text, c))

end Category

namespace RequirementKind

def encode (k : RequirementKind) : Value := .string k.text

def decode : Decoder RequirementKind :=
  .choice [(text .function, .function), (text .property, .property)]

end RequirementKind

/-! ### Fixes -/

namespace Replacement

def members (r : Replacement) : List (String × Value) := [
  ("label", .string r.label),
  ("range", r.range.encode),
  ("old_text", .string r.oldText),
  ("new_text", .string r.newText),
  ("reformat", .bool r.reformat)]

def encode (r : Replacement) : Value := .object r.members

def shape : Shape := ⟨"struct ReplaceFix", ["label", "range", "old_text", "new_text", "reformat"]⟩

def decode : Decoder Replacement := .record shape fun row =>
  Replacement.mk <$> row.required "label" .string
    <*> row.required "range" Span.decode
    <*> row.required "old_text" .string
    <*> row.required "new_text" .string
    <*> row.required "reformat" .bool

end Replacement

namespace Fix

def encode : Fix → Value
  | .replace r => .object (("type", .string "replace") :: r.members)
  | .alternatives rs => .object [
      ("type", .string "alternatives"),
      ("fixes", .ofList Replacement.encode rs)]

def alternativesShape : Shape := ⟨"struct variant LintFix::Alternatives", ["fixes"]⟩

def decode : Decoder Fix := Json.Tagged.decoder "LintFix" "type" [
  ("replace", fun source d => (Replacement.decode source d).map .replace),
  ("alternatives", .record alternativesShape fun row =>
    Fix.alternatives <$> row.required "fixes" (.list Replacement.decode))]

end Fix

/-! ### Diagnostics and outcomes -/

/-- A member that is only written when it has something to say. -/
def memberIf (present : Bool) (name : String) (v : Value) : List (String × Value) :=
  if present then [(name, v)] else []

namespace Diagnostic

def encode (d : Diagnostic) : Value := .object ([
  ("issue", .string d.issue),
  ("severity", d.severity.encode),
  ("file", .string d.file),
  ("span", d.span.encode),
  ("message", .string d.message)] ++
  memberIf d.fix.isSome "fix" (.ofOption Fix.encode d.fix))

def shape : Shape :=
  ⟨"struct Diagnostic", ["issue", "severity", "file", "span", "message", "fix"]⟩

def decode : Decoder Diagnostic := .record shape fun row =>
  Diagnostic.mk <$> row.required "issue" .string
    <*> row.required "severity" Severity.decode
    <*> row.required "file" .string
    <*> row.required "span" Span.decode
    <*> row.required "message" .string
    <*> row.withDefault "fix" (.optional Fix.decode) none

end Diagnostic

namespace Outcome

def encode (o : Outcome) : Value := .object [
  ("diagnostics", .ofList Diagnostic.encode o.diagnostics),
  ("suppressed", .ofList Diagnostic.encode o.suppressed),
  ("scanned", .ofWord o.scanned),
  ("lambdas_visited", .ofWord o.visited)]

def shape : Shape :=
  ⟨"struct DetectionResult", ["diagnostics", "suppressed", "scanned", "lambdas_visited"]⟩

def decode : Decoder Outcome := .record shape fun row =>
  Outcome.mk <$> row.required "diagnostics" (.list Diagnostic.decode)
    <*> row.withDefault "suppressed" (.list Diagnostic.decode) []
    <*> row.required "scanned" .word
    <*> row.required "lambdas_visited" .word

end Outcome
end BuilderLint
