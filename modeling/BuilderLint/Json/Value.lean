/-! JSON values.

Numbers are whole as long as they fit a 64-bit word, signed or unsigned, and
doubles otherwise. An object is its list of members, in order. -/
namespace BuilderLint.Json

/-- A whole number or a double. -/
inductive Number where
  | whole (n : Int)
  | real (x : Float)

/-- A JSON value. -/
inductive Value where
  | null
  | bool (b : Bool)
  | number (n : Number)
  | string (s : String)
  | array (items : List Value)
  | object (members : List (String × Value))

namespace Value

def ofNat (n : Nat) : Value := .number (.whole n)

def ofWord (n : UInt64) : Value := .ofNat n.toNat

def ofOption {α : Type} (encode : α → Value) : Option α → Value
  | none => .null
  | some a => encode a

def ofList {α : Type} (encode : α → Value) (items : List α) : Value :=
  .array (items.map encode)

def strings (items : List String) : Value := ofList .string items

/-- The text, when the value is one. -/
def text? : Value → Option String
  | .string s => some s
  | _ => none

def isNull : Value → Bool
  | .null => true
  | _ => false

/-- The first member of that name. -/
def field? (name : String) : Value → Option Value
  | .object members => (members.find? fun m => m.1 == name).map Prod.snd
  | _ => none

end Value
end BuilderLint.Json
