import BuilderLint.Facts.Basic

/-! Suggested edits.

A fix is one replacement, or several that exclude each other: applying any of
them resolves the diagnostic. -/
namespace BuilderLint

/-- Replaces the first occurrence of `oldText` inside `range` by `newText`. -/
structure Replacement where
  label : String := ""
  range : Span := {}
  oldText : String := ""
  newText : String := ""
  /-- Asks the editor to lay out the edited region anew. -/
  reformat : Bool := false
deriving DecidableEq, Repr

/-- What a diagnostic offers to do about it. -/
inductive Fix where
  | replace (replacement : Replacement)
  | alternatives (replacements : List Replacement)
deriving DecidableEq, Repr

namespace Fix

/-- All edits that are offered, in order. -/
def replacements : Fix → List Replacement
  | .replace r => [r]
  | .alternatives rs => rs

end Fix
end BuilderLint
