import BuilderLint.Json.Fault
import BuilderLint.Json.Reader

/-! Decoders for plain values, lists, maps and choices.

A decoder takes a draft from left to right and stops at the first fault, be it of
form or of shape. A part that belongs to another type is named by its first
character alone, so what a wrong array or object holds is never looked at. -/
namespace BuilderLint.Json

/-- Takes a draft from a source, or says why not. -/
abbrev Decoder (α : Type) := Source → Draft → Except Fault α

namespace Decoder
variable {α : Type}

/-! ### Plain values -/

def string : Decoder String
  | _, .string s => .ok s
  | _, d => .error (.wrongType "a string" d)

def bool : Decoder Bool
  | _, .bool b => .ok b
  | _, d => .error (.wrongType "a boolean" d)

/-- A whole number from zero to below `bound`. -/
def nat (bound : Nat) (expected : String) : Decoder Nat
  | _, .number (.whole n) =>
    if 0 ≤ n && n < bound then .ok n.toNat
    else .error (.mismatch (.invalidValue (.number (.whole n)) expected))
  | _, d => .error (.wrongType expected d)

def word : Decoder UInt64
  | source, d => (nat UInt64.size "usize" source d).map UInt64.ofNat

def byte : Decoder UInt8
  | source, d => (nat UInt8.size "u8" source d).map UInt8.ofNat

/-- Any value at all. -/
def value : Decoder Value
  | source, d =>
    match d.value? source with
    | some v => .ok v
    | none => .error .malformed

/-- A value that may be null. -/
def optional (decode : Decoder α) : Decoder (Option α)
  | _, .null => .ok none
  | source, d => (decode source d).map some

/-! ### Lists and maps -/

def listItems (decode : Decoder α) (source : Source) : List Draft → Except Fault (List α)
  | [] => .ok []
  | d :: rest => do
    let a ← decode source d
    let as ← listItems decode source rest
    return a :: as

def list (decode : Decoder α) : Decoder (List α)
  | source, .array items whole =>
    match source.deeper with
    | none => .error .malformed
    | some inner => do
      let as ← listItems decode inner items
      if whole then return as else throw .malformed
  | _, d => .error (.wrongType "a sequence" d)

/-- Values under names; of two values under one name the later stands in the place of the earlier. -/
def map : Decoder (OrderedMap Value)
  | source, .object members whole =>
    match source.deeper, whole with
    | some inner, true =>
      match Draft.members? inner members with
      | some ms => .ok (.ofList ms)
      | none => .error .malformed
    | _, _ => .error .malformed
  | _, d => .error (.wrongType "a map" d)

/-! ### Choices -/

/-- The choice of that name. -/
def named (choices : List (String × α)) (name : String) : Except Fault α :=
  match choices.find? fun c => c.1 == name with
  | some c => .ok c.2
  | none => .error (.mismatch (.unknownVariant name (choices.map Prod.fst)))

/-- The name of a choice, where an object may stand around it. -/
def identifier (choices : List (String × α)) : Draft → Except Fault α
  | .string name => named choices name
  | d => .error (.wrongType "variant identifier" d)

/-- One of several names, written as a text or as the only member of an object, with null under it. -/
def choice (choices : List (String × α)) : Decoder α
  | _, .string name => named choices name
  | source, .object ((key, d) :: rest) whole =>
    match source.deeper with
    | none => .error .malformed
    | some _ => do
      let a ← identifier choices key
      match d, rest, whole with
      | .null, [], true => return a
      | .null, _, _ => throw .malformed
      | d, _, _ => throw (.wrongType "unit" d)
  | _, _ => .error .malformed

/-! ### Whole texts and values -/

/-- Decodes a whole text: nothing but blanks may follow. -/
def ofText (decode : Decoder α) (text : String) : Except Fault α := do
  let (d, finished) := Draft.read text
  let a ← decode .wholeText d
  if finished then return a else throw .malformed

/-- Decodes a value in memory. -/
def ofValue (decode : Decoder α) (v : Value) : Except Fault α :=
  decode .memory (.ofValue v)

end Decoder

/-- The value written in a text, if it is one. -/
def Value.ofText? (text : String) : Option Value :=
  (Decoder.value.ofText text).toOption

end BuilderLint.Json
