import BuilderLint.Json.Draft
import BuilderLint.Json.Writer
import BuilderLint.Text.Quoted

/-! Why a text or a value is not what was asked for.

A fault is either of form (the text is no JSON from some point on) or of shape
(what was read so far is JSON, and not what belongs there). Only faults of shape
carry a detail. -/
namespace BuilderLint.Json

/-- What was found in place of the thing asked for. -/
inductive Found where
  | null
  | bool (b : Bool)
  | number (n : Number)
  | string (s : String)
  | sequence
  | map

namespace Found

def text : Found → String
  | .null => "null"
  | .bool b => "boolean `" ++ (if b then "true" else "false") ++ "`"
  | .number (.whole n) => "integer `" ++ toString n ++ "`"
  | .number (.real x) => "floating point `" ++ realText x ++ "`"
  | .string s => "string " ++ Text.quoted s
  | .sequence => "sequence"
  | .map => "map"

end Found

/-- What is found where a draft starts; nothing when it cannot be read. -/
def Draft.found? : Draft → Option Found
  | .null => some .null
  | .bool b => some (.bool b)
  | .number n => some (.number n)
  | .string s => some (.string s)
  | .array _ _ => some .sequence
  | .object _ _ => some .map
  | .unusable => none
  | .broken => none

/-- A fault of shape. -/
inductive Mismatch where
  | missingField (name : String)
  | duplicateField (name : String)
  | unknownVariant (name : String) (known : List String)
  | invalidType (found : Found) (expected : String)
  | invalidValue (found : Found) (expected : String)
  | invalidLength (length : Nat) (expected : String)
  | noVariant (type : String)

namespace Mismatch

def ticked (s : String) : String := "`" ++ s ++ "`"

/-- The names that would have been right. -/
def alternatives : List String → String
  | [] => "there are no variants"
  | [a] => "expected " ++ ticked a
  | [a, b] => "expected " ++ ticked a ++ " or " ++ ticked b
  | names => "expected one of " ++ ", ".intercalate (names.map ticked)

def detail : Mismatch → String
  | .missingField name => "missing field " ++ ticked name
  | .duplicateField name => "duplicate field " ++ ticked name
  | .unknownVariant name known => "unknown variant " ++ ticked name ++ ", " ++ alternatives known
  | .invalidType found expected => "invalid type: " ++ found.text ++ ", expected " ++ expected
  | .invalidValue found expected => "invalid value: " ++ found.text ++ ", expected " ++ expected
  | .invalidLength length expected =>
    "invalid length " ++ toString length ++ ", expected " ++ expected
  | .noVariant type => "data did not match any variant of untagged enum " ++ type

end Mismatch

/-- Why a decoder gave up. -/
inductive Fault where
  | malformed
  | mismatch (why : Mismatch)

namespace Fault

/-- Something else than the thing asked for. -/
def wrongType (expected : String) (d : Draft) : Fault :=
  match d.found? with
  | some found => .mismatch (.invalidType found expected)
  | none => .malformed

end Fault
end BuilderLint.Json
