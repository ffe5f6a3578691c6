import BuilderLint.Diagnostic

/-! Suppressing diagnostics lambda by lambda. -/
namespace BuilderLint

/-- The entry that suppresses every issue, in capital or small letters. -/
def suppressAll : String := "all"

/-- Equal but for the case of ASCII letters. -/
def sameIgnoringCase (a b : String) : Bool :=
  a.toList.map Char.toLower == b.toList.map Char.toLower

/-- Whether a lambda's list of suppressed issues covers an issue. -/
def isSuppressed (suppress : List String) (issue : String) : Bool :=
  suppress.any fun s => s == issue || sameIgnoringCase s suppressAll

/-- The diagnostics to report, and those that the list suppresses. -/
def splitSuppressed (suppress : List String) (diagnostics : List Diagnostic) :
    List Diagnostic × List Diagnostic :=
  diagnostics.partition fun d => !isSuppressed suppress d.issue

end BuilderLint
