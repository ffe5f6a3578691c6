import BuilderLint.Json.Value
import BuilderLint.OrderedMap

/-! JSON text read as far as it goes.

A draft keeps a fault where it stands: what cannot be read is `broken`, and an
array or an object knows whether its end was reached. A decoder that walks a
draft from left to right therefore meets faults of form and faults of shape in
the order of the text, and a part that nobody asks for is only required to be
`sound`. A value that is already in memory is a draft without faults. -/
namespace BuilderLint.Json

/-- JSON text read as far as it goes. -/
inductive Draft where
  | null
  | bool (b : Bool)
  | number (n : Number)
  | string (s : String)
  /-- Items up to the end of the array, or up to the fault that cut it. -/
  | array (items : List Draft) (whole : Bool)
  /-- Members up to the end of the object, or up to the fault that cut it. -/
  | object (members : List (Draft × Draft)) (whole : Bool)
  /-- Well formed, but no value: a number out of range, a text with half a surrogate pair. -/
  | unusable
  /-- Not JSON from here on. -/
  | broken

/-- Where a draft comes from: a text, in which a bounded number of further levels may be opened, or
memory, in which nothing is bounded. -/
inductive Source where
  | text (levels : Nat)
  | memory
deriving DecidableEq, Repr

namespace Source

/-- A whole text: 127 levels may be opened. -/
def wholeText : Source := .text 127

/-- One level further in. -/
def deeper : Source → Option Source
  | .text 0 => none
  | .text (n + 1) => some (.text n)
  | .memory => some .memory

end Source

namespace Draft

/-! ### Values as drafts -/

mutual

/-- A value in memory as a draft. -/
def ofValue : Value → Draft
  | .null => .null
  | .bool b => .bool b
  | .number n => .number n
  | .string s => .string s
  | .array items => .array (ofValues items) true
  | .object members => .object (ofMembers members) true

def ofValues : List Value → List Draft
  | [] => []
  | v :: rest => ofValue v :: ofValues rest

def ofMembers : List (String × Value) → List (Draft × Draft)
  | [] => []
  | (key, v) :: rest => (.string key, ofValue v) :: ofMembers rest

end

/-! ### Drafts without faults -/

mutual

/-- Well formed to its end: what a part that nobody asks for has to be. -/
def sound : Draft → Bool
  | .array items whole => soundItems items && whole
  | .object members whole => soundMembers members && whole
  | .broken => false
  | _ => true

def soundItems : List Draft → Bool
  | [] => true
  | d :: rest => d.sound && soundItems rest

def soundMembers : List (Draft × Draft) → Bool
  | [] => true
  | (key, d) :: rest => key.sound && d.sound && soundMembers rest

end

mutual

/-- The value, unless a fault or too many levels stand in the way. -/
def value? (source : Source) : Draft → Option Value
  | .null => some .null
  | .bool b => some (.bool b)
  | .number n => some (.number n)
  | .string s => some (.string s)
  | .array items whole =>
    match source.deeper, whole with
    | some inner, true => (values? inner items).map .array
    | _, _ => none
  | .object members whole =>
    match source.deeper, whole with
    | some inner, true =>
      (members? inner members).map fun ms => .object (OrderedMap.ofList ms).entries
    | _, _ => none
  | .unusable => none
  | .broken => none

def values? (source : Source) : List Draft → Option (List Value)
  | [] => some []
  | d :: rest =>
    match value? source d, values? source rest with
    | some v, some vs => some (v :: vs)
    | _, _ => none

def members? (source : Source) : List (Draft × Draft) → Option (List (String × Value))
  | [] => some []
  | (.string key, d) :: rest =>
    match value? source d, members? source rest with
    | some v, some vs => some ((key, v) :: vs)
    | _, _ => none
  | _ :: _ => none

end

mutual

/-- Whether the draft can be held in memory whole: no fault in it, and not too many levels. A key may
be any value that is not composed. -/
def fits (source : Source) : Draft → Bool
  | .array items whole =>
    match source.deeper with
    | some inner => fitsItems inner items && whole
    | none => false
  | .object members whole =>
    match source.deeper with
    | some inner => fitsMembers inner members && whole
    | none => false
  | .unusable => false
  | .broken => false
  | _ => true

def fitsItems (source : Source) : List Draft → Bool
  | [] => true
  | d :: rest => d.fits source && fitsItems source rest

def fitsMembers (source : Source) : List (Draft × Draft) → Bool
  | [] => true
  | (key, d) :: rest => key.fits source && d.fits source && fitsMembers source rest

end

mutual

/-- The number of levels. -/
def depth : Draft → Nat
  | .array items _ => depthItems items + 1
  | .object members _ => depthMembers members + 1
  | _ => 0

def depthItems : List Draft → Nat
  | [] => 0
  | d :: rest => max d.depth (depthItems rest)

def depthMembers : List (Draft × Draft) → Nat
  | [] => 0
  | (_, d) :: rest => max d.depth (depthMembers rest)

end

end Draft
end BuilderLint.Json
