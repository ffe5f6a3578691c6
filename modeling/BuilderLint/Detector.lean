import BuilderLint.Diagnostic
import BuilderLint.Tally

/-! Detecting requirements that a lambda does not meet.

The requirements of the receiver class are grouped, the uses in the lambda's body
are counted, and every group without a use is reported with one alternative per
member: a stub right behind the lambda's opening brace. -/
namespace BuilderLint

/-- A lambda as the detector sees it. -/
structure LambdaBody where
  file : String
  /-- The whole lambda, braces included. -/
  span : Span
  statements : List Statement

namespace Requirement

/-- The statement that the fix writes. -/
def stub (r : Requirement) : String :=
  match r.kind with
  | .property => r.name ++ " = "
  | .function => r.name ++ "\x7b\n\x7d"

/-- Writes the requirement's stub behind the opening brace. -/
def replacement (span : Span) (r : Requirement) : Replacement where
  label := "Define \"" ++ r.name ++ "\" property"
  range := span
  oldText := "\x7b"
  newText := "\x7b\n" ++ r.stub
  reformat := true

/-- One alternative per requirement. -/
def fix (requirements : List Requirement) (span : Span) : Fix :=
  .alternatives (requirements.map (replacement span))

/-- The message of the first requirement, or one that names the group. -/
def messageFor (key : String) (requirements : List Requirement) : String :=
  (requirements.head?.bind (·.message)).getD ("\"" ++ key ++ "\" property must be defined")

end Requirement

/-- What the detector depends on. -/
structure Detector where
  names : MarkNames
  naming : Naming := .bean
  severity : Severity := Issue.mandatory.severity

namespace Detector

/-- The requirements among the methods of a class, grouped. -/
def discover (d : Detector) (methods : List MethodDecl) : Groups :=
  .ofRequirements (Requirement.ofMethods d.names d.naming methods)

/-- The diagnostic for a group that the lambda does not use. -/
def diagnostic (d : Detector) (lambda : LambdaBody) (key : String) (members : List Requirement) :
    Diagnostic where
  issue := Issue.mandatory.id
  severity := d.severity
  file := lambda.file
  span := lambda.span
  message := Requirement.messageFor key members
  fix := some (Requirement.fix members lambda.span)

/-- The groups that a lambda with this body is reported for, in the order of the report. -/
def reported (d : Detector) (body : List Statement) (methods : List MethodDecl) :
    List (String × List Requirement) :=
  let groups := d.discover methods
  (Tally.ofStatements groups body).missing.map fun key => (key, (groups.get? key).getD [])

/-- The diagnostics of a lambda that configures a class with these methods. -/
def check (d : Detector) (lambda : LambdaBody) (methods : List MethodDecl) : List Diagnostic :=
  (d.reported lambda.statements methods).map fun g => d.diagnostic lambda g.1 g.2

end Detector
end BuilderLint
