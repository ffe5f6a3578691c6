import BuilderLint.Json.Record

/-! Decoding tagged choices.

A tagged choice is a record with one field more, the tag, that says which record
it is. The tag may come anywhere, so the other members are held in memory until
the end of the object; the tag itself is looked at where it stands. Written as an
array, the tag comes first. -/
namespace BuilderLint.Json.Tagged
variable {α : Type}

/-- The variant a tag names. In memory a whole number stands for the variant of that index. -/
def variant (variants : List (String × Decoder α)) : Source → Draft → Except Fault (Decoder α)
  | .memory, .number (.whole (.ofNat n)) =>
    match variants[n]? with
    | some v => .ok v.2
    | none => .error (.mismatch (.invalidValue (.number (.whole n))
        ("variant index 0 <= i < " ++ toString variants.length)))
  | _, d => Decoder.identifier variants d

/-- Looks for the tag among the members and over the rest of them. -/
def scan (tag : String) (variants : List (String × Decoder α)) (source : Source) (whole : Bool) :
    Option (Decoder α) → List (Draft × Draft) → Except Fault (Decoder α)
  | found, [] =>
    if whole then
      match found with
      | some v => .ok v
      | none => .error (.mismatch (.missingField tag))
    else .error .malformed
  | found, (key, d) :: rest =>
    if isTag key then
      match found with
      | some _ => .error (.mismatch (.duplicateField tag))
      | none => do
        let v ← variant variants source d
        scan tag variants source whole (some v) rest
    else if key.fits source && isKey key && d.fits source then scan tag variants source whole found rest
    else .error .malformed
where
  isTag : Draft → Bool
    | .string name => name == tag
    | _ => false
  isKey (key : Draft) : Bool :=
    match source, key with
    | .text _, .string _ => true
    | .text _, _ => false
    | .memory, _ => true

/-- The members other than the tag. -/
def content (tag : String) (members : List (Draft × Draft)) : List (Draft × Draft) :=
  members.filter fun m =>
    match m.1 with
    | .string name => name != tag
    | _ => true

/-- A record with a tag that says which. -/
def decoder (type tag : String) (variants : List (String × Decoder α)) : Decoder α
  | source, .object members whole =>
    match source.deeper with
    | none => .error .malformed
    | some inner => do
      let v ← scan tag variants inner whole none members
      v .memory (.object (content tag members) true)
  | source, .array items whole =>
    match source.deeper with
    | none => .error .malformed
    | some inner =>
      match items with
      | [] => .error (if whole then .mismatch (.missingField tag) else .malformed)
      | first :: rest => do
        let v ← variant variants inner first
        if Draft.fitsItems inner rest && whole then v .memory (.array rest true)
        else throw .malformed
  | _, d => .error (.wrongType ("internally tagged enum " ++ type) d)

end BuilderLint.Json.Tagged
