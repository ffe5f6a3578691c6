import BuilderLint.Json.Decoder

/-! Decoding records.

A record is written as an object, its members in any order, or as an array of its
fields in the order of declaration. Each field is decoded on its own and brings
the place of its fault along; the fault that stands first in the text is the
fault of the record. What belongs to no field is looked over for faults of form
only. -/
namespace BuilderLint.Json

/-! ### Faults and their places -/

/-- A value, or a fault and its place among the parts of a record. -/
inductive Placed (α : Type) where
  | value (a : α)
  | fault (place : Nat) (why : Fault)

namespace Placed
variable {α β : Type}

def ofExcept (place : Nat) : Except Fault α → Placed α
  | .ok a => .value a
  | .error why => .fault place why

def map (f : α → β) : Placed α → Placed β
  | .value a => .value (f a)
  | .fault i why => .fault i why

/-- Both parts, or the fault further left; of two faults in one place the first. -/
def ap : Placed (α → β) → Placed α → Placed β
  | .value f, .value a => .value (f a)
  | .value _, .fault i why => .fault i why
  | .fault i why, .value _ => .fault i why
  | .fault i why, .fault j other => if j < i then .fault j other else .fault i why

instance : Functor Placed := ⟨map, fun a x => x.map fun _ => a⟩
instance : Seq Placed := ⟨fun f x => ap f (x ())⟩

/-- The value, unless a fault stands here or, in its place or further left, elsewhere. -/
def result (elsewhere : Option (Nat × Fault)) : Placed α → Except Fault α
  | .value a =>
    match elsewhere with
    | none => .ok a
    | some (_, why) => .error why
  | .fault i why =>
    match elsewhere with
    | some (j, other) => .error (if i < j then why else other)
    | none => .error why

end Placed

/-! ### Rows -/

/-- A record's name in messages and its fields in the order of declaration. -/
structure Shape where
  title : String
  fields : List String

namespace Shape

def elements (n : Nat) : String :=
  toString n ++ if n = 1 then " element" else " elements"

/-- What is expected of an array that stands for the record. -/
def expected (shape : Shape) : String :=
  shape.title ++ " with " ++ elements shape.fields.length

end Shape

/-- The fields of a record as a draft offers them. -/
structure Row where
  source : Source
  /-- The part under a field's name, and its place. -/
  slot : String → Option (Nat × Draft)
  /-- The fault of a field that is asked for and not there. -/
  absent : String → Mismatch
  /-- The place behind all parts. -/
  finish : Nat
  /-- Whether a field that may be null may also be left out. -/
  nullMayBeAbsent : Bool
  /-- The first fault that belongs to no field. -/
  fault : Option (Nat × Fault)

/-- What a member's key stands for. -/
inductive KeyRole where
  | field (name : String)
  | other
  | unreadable

namespace KeyRole

/-- The role of a key. In memory a whole number stands for the field of that index. -/
def of (fields : List String) : Source → Draft → KeyRole
  | _, .string name => if fields.contains name then .field name else .other
  | .memory, .number (.whole (.ofNat n)) =>
    match fields[n]? with
    | some name => .field name
    | none => .other
  | _, _ => .unreadable

end KeyRole

namespace Row
variable {α : Type}

/-- The first member that stands for the field. -/
def findField (fields : List String) (source : Source) (name : String) :
    Nat → List (Draft × Draft) → Option (Nat × Draft)
  | _, [] => none
  | i, (key, d) :: rest =>
    match KeyRole.of fields source key with
    | .field found =>
      if found = name then some (i, d) else findField fields source name (i + 1) rest
    | _ => findField fields source name (i + 1) rest

/-- The first member that repeats a field, has no readable key, or is unknown and not sound. -/
def memberFault (fields : List String) (source : Source) (whole : Bool) :
    Nat → List String → List (Draft × Draft) → Option (Nat × Fault)
  | i, _, [] => if whole then none else some (i, .malformed)
  | i, seen, (key, d) :: rest =>
    match KeyRole.of fields source key with
    | .unreadable => some (i, .malformed)
    | .other =>
      if d.sound then memberFault fields source whole (i + 1) seen rest
      else some (i, .malformed)
    | .field name =>
      if seen.contains name then some (i, .mismatch (.duplicateField name))
      else memberFault fields source whole (i + 1) (name :: seen) rest

def ofMembers (shape : Shape) (source : Source) (members : List (Draft × Draft)) (whole : Bool) :
    Row where
  source
  slot name := findField shape.fields source name 0 members
  absent := .missingField
  finish := members.length + 1
  nullMayBeAbsent := true
  fault := memberFault shape.fields source whole 0 [] members

/-- The fault of an array with too many items, or without an end. -/
def itemFault (shape : Shape) (source : Source) (items : List Draft) (whole : Bool) :
    Option (Nat × Fault) :=
  let n := shape.fields.length
  if n < items.length then
    match source with
    | .text _ => some (n, .malformed)
    | .memory =>
      some (n, .mismatch (.invalidLength items.length (Shape.elements n ++ " in sequence")))
  else if whole then none
  else some (items.length, .malformed)

def ofItems (shape : Shape) (source : Source) (items : List Draft) (whole : Bool) : Row where
  source
  slot name :=
    let i := shape.fields.idxOf name
    items[i]?.map fun d => (i, d)
  absent name := .invalidLength (shape.fields.idxOf name) shape.expected
  finish := items.length
  nullMayBeAbsent := false
  fault := itemFault shape source items whole

/-! ### Fields -/

/-- A field that has to be there. -/
def required (row : Row) (name : String) (decode : Decoder α) : Placed α :=
  match row.slot name with
  | some (i, d) => .ofExcept i (decode row.source d)
  | none => .fault row.finish (.mismatch (row.absent name))

/-- A field that has a default. -/
def withDefault (row : Row) (name : String) (decode : Decoder α) (default : α) : Placed α :=
  match row.slot name with
  | some (i, d) => .ofExcept i (decode row.source d)
  | none => .value default

/-- A field that may be null, and in an object left out. -/
def nullable (row : Row) (name : String) (decode : Decoder α) : Placed (Option α) :=
  if row.nullMayBeAbsent then row.withDefault name decode.optional none
  else row.required name decode.optional

end Row

/-- A record of the given shape, built from its row. -/
def Decoder.record {α : Type} (shape : Shape) (build : Row → Placed α) : Decoder α
  | source, .object members whole =>
    match source.deeper with
    | none => .error .malformed
    | some inner =>
      let row := Row.ofMembers shape inner members whole
      (build row).result row.fault
  | source, .array items whole =>
    match source.deeper with
    | none => .error .malformed
    | some inner =>
      let row := Row.ofItems shape inner items whole
      (build row).result row.fault
  | _, d => .error (.wrongType shape.title d)

end BuilderLint.Json
