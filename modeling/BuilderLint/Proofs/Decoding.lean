import BuilderLint.Json.Tagged

/-! Decoding values in memory.

A value in memory is a draft without faults, so a decoder either gives what the value
stands for or does not take it (`Decoder.read?`). A record whose members have distinct
names is read field by field: each field is what its decoder makes of the member of its
name, in whatever order the members stand, and members of other names do not count
(`Decoder.read?_record`). A tagged choice is read as the record that its tag names
(`Tagged.read?_decoder`). With these, that a decoder takes back what was written is a
calculation for every single format. -/
namespace BuilderLint.Json

/-! ### Values without faults -/

namespace Value

/-- What holds of a value when it holds of its items and members holds of all values. -/
@[elab_as_elim]
theorem induction {P : Value → Prop} (null : P .null) (bool : ∀ b, P (.bool b))
    (number : ∀ n, P (.number n)) (string : ∀ s, P (.string s))
    (array : ∀ items, (∀ v ∈ items, P v) → P (.array items))
    (object : ∀ members, (∀ m ∈ members, P m.2) → P (.object members)) (v : Value) : P v :=
  match v with
  | .null => null
  | .bool b => bool b
  | .number n => number n
  | .string s => string s
  | .array items => array items fun v _ => induction null bool number string array object v
  | .object members => object members fun m _ =>
    induction null bool number string array object m.2
termination_by sizeOf v
decreasing_by
  · have := List.sizeOf_lt_of_mem ‹v ∈ items›
    simp only [Value.array.sizeOf_spec]
    omega
  · have hm := List.sizeOf_lt_of_mem ‹m ∈ members›
    have : sizeOf m = 1 + sizeOf m.1 + sizeOf m.2 := rfl
    simp only [Value.object.sizeOf_spec]
    omega

/-- No object in the value has two members of one name. -/
inductive DistinctKeys : Value → Prop where
  | null : DistinctKeys .null
  | bool (b : Bool) : DistinctKeys (.bool b)
  | number (n : Number) : DistinctKeys (.number n)
  | string (s : String) : DistinctKeys (.string s)
  | array {items : List Value} (h : ∀ v ∈ items, DistinctKeys v) : DistinctKeys (.array items)
  | object {members : List (String × Value)} (hnames : (members.map Prod.fst).Nodup)
      (h : ∀ m ∈ members, DistinctKeys m.2) : DistinctKeys (.object members)

end Value

namespace Draft

theorem ofValues_eq_map (items : List Value) : ofValues items = items.map ofValue := by
  induction items with
  | nil => rfl
  | cons v rest ih => rw [ofValues, ih, List.map_cons]

theorem ofMembers_eq_map (members : List (String × Value)) :
    ofMembers members = members.map fun m => (.string m.1, ofValue m.2) := by
  induction members with
  | nil => rfl
  | cons m rest ih => rw [ofMembers, ih, List.map_cons]

theorem soundItems_iff (ds : List Draft) : soundItems ds = true ↔ ∀ d ∈ ds, d.sound = true := by
  induction ds with
  | nil => simp [soundItems]
  | cons d rest ih => simp [soundItems, ih]

theorem soundMembers_iff (ms : List (Draft × Draft)) :
    soundMembers ms = true ↔ ∀ m ∈ ms, m.1.sound = true ∧ m.2.sound = true := by
  induction ms with
  | nil => simp [soundMembers]
  | cons m rest ih =>
    obtain ⟨key, d⟩ := m
    simp [soundMembers, ih]

theorem fitsItems_iff (source : Source) (ds : List Draft) :
    fitsItems source ds = true ↔ ∀ d ∈ ds, d.fits source = true := by
  induction ds with
  | nil => simp [fitsItems]
  | cons d rest ih => simp [fitsItems, ih]

theorem fitsMembers_iff (source : Source) (ms : List (Draft × Draft)) :
    fitsMembers source ms = true ↔ ∀ m ∈ ms, m.1.fits source = true ∧ m.2.fits source = true := by
  induction ms with
  | nil => simp [fitsMembers]
  | cons m rest ih =>
    obtain ⟨key, d⟩ := m
    simp [fitsMembers, ih]

@[simp] theorem sound_ofValue (v : Value) : (ofValue v).sound = true := by
  induction v using Value.induction with
  | array items ih => simpa [ofValue, sound, ofValues_eq_map, soundItems_iff] using ih
  | object members ih =>
    simp only [ofValue, sound, ofMembers_eq_map, Bool.and_true, soundMembers_iff, List.mem_map]
    rintro _ ⟨m, hm, rfl⟩
    exact ⟨rfl, ih m hm⟩
  | _ => rfl

@[simp] theorem fits_ofValue (v : Value) : (ofValue v).fits .memory = true := by
  induction v using Value.induction with
  | array items ih =>
    simpa [ofValue, fits, Source.deeper, ofValues_eq_map, fitsItems_iff] using ih
  | object members ih =>
    simp only [ofValue, fits, Source.deeper, ofMembers_eq_map, Bool.and_true, fitsMembers_iff,
      List.mem_map]
    rintro _ ⟨m, hm, rfl⟩
    exact ⟨rfl, ih m hm⟩
  | _ => rfl

theorem le_depthItems {d : Draft} {ds : List Draft} (h : d ∈ ds) : d.depth ≤ depthItems ds := by
  induction ds with
  | nil => cases h
  | cons e rest ih =>
    simp only [depthItems]
    rcases List.mem_cons.mp h with rfl | h
    · omega
    · have := ih h
      omega

end Draft

/-! ### What a decoder makes of a value -/

/-- What the value stands for, if the decoder takes it. -/
def Decoder.read? {α : Type} (decode : Decoder α) (v : Value) : Option α :=
  (decode.ofValue v).toOption

namespace Decoder
variable {α : Type} {decode : Decoder α}

theorem read?_eq_some_iff {v : Value} {a : α} :
    decode.read? v = some a ↔ decode.ofValue v = .ok a := by
  unfold read?
  cases decode.ofValue v <;> simp [Except.toOption]

@[simp] theorem read?_string (s : String) : string.read? (.string s) = some s := rfl

/-- What is read is made into something else. -/
@[simp] theorem read?_mapped {β : Type} (decode : Decoder α) (f : α → β) (v : Value) :
    Decoder.read? (fun source d => (decode source d).map f) v = (decode.read? v).map f := by
  show ((decode .memory (.ofValue v)).map f).toOption =
    (decode .memory (.ofValue v)).toOption.map f
  cases decode .memory (.ofValue v) <;> rfl

@[simp] theorem read?_bool (b : Bool) : bool.read? (.bool b) = some b := rfl

theorem nat_ofNat {bound n : Nat} (h : n < bound) (expected : String) :
    (nat bound expected).ofValue (.ofNat n) = .ok n := by
  have hfits : (decide (0 ≤ (n : Int)) && decide ((n : Int) < bound)) = true := by
    simpa using h
  show (if decide (0 ≤ (n : Int)) && decide ((n : Int) < bound) then _ else _) = _
  rw [if_pos hfits]
  rfl

@[simp] theorem read?_word (n : UInt64) : word.read? (.ofWord n) = some n := by
  have hnat := nat_ofNat n.toNat_lt_size "usize"
  rw [ofValue] at hnat
  rw [read?_eq_some_iff, ofValue, word, Value.ofWord, hnat, Except.map, UInt64.ofNat_toNat]

@[simp] theorem read?_byte (n : UInt8) : byte.read? (.ofNat n.toNat) = some n := by
  have hnat := nat_ofNat n.toNat_lt_size "u8"
  rw [ofValue] at hnat
  rw [read?_eq_some_iff, ofValue, byte, hnat, Except.map, UInt8.ofNat_toNat]

/-- An optional value is taken back when nothing that is there is written as null. -/
theorem read?_ofOption {encode : α → Value} {o : Option α}
    (h : ∀ a ∈ o, decode.read? (encode a) = some a) (hnull : ∀ a ∈ o, (encode a).isNull = false) :
    decode.optional.read? (.ofOption encode o) = some o := by
  cases o with
  | none => rfl
  | some a =>
    have ha := read?_eq_some_iff.mp (h a rfl)
    have hthere : (optional decode).ofValue (encode a) = (decode.ofValue (encode a)).map some := by
      have hnot := hnull a rfl
      unfold ofValue
      cases hv : encode a with
      | null =>
        rw [hv] at hnot
        cases hnot
      | _ => rfl
    show (optional decode).read? (encode a) = _
    rw [read?_eq_some_iff, hthere, ha]
    rfl

@[simp] theorem read?_optional_string (o : Option String) :
    string.optional.read? (.ofOption .string o) = some o :=
  read?_ofOption (fun s _ => read?_string s) fun _ _ => rfl

/-- A list is taken back when each of its elements is. -/
@[simp] theorem read?_ofList {encode : α → Value} {as : List α}
    (h : ∀ a ∈ as, decode.read? (encode a) = some a) :
    decode.list.read? (.ofList encode as) = some as := by
  have hitems : listItems decode .memory ((as.map encode).map Draft.ofValue) = .ok as := by
    induction as with
    | nil => rfl
    | cons a rest ih =>
      have ha : decode .memory (Draft.ofValue (encode a)) = .ok a :=
        read?_eq_some_iff.mp (h a (List.mem_cons_self ..))
      have hrest := ih fun b hb => h b (List.mem_cons_of_mem a hb)
      simp only [List.map_cons, listItems, ha, hrest]
      rfl
  rw [read?_eq_some_iff, ofValue, Value.ofList, Draft.ofValue, Draft.ofValues_eq_map]
  simp only [list, Source.deeper, hitems]
  rfl

@[simp] theorem read?_strings (items : List String) :
    (list string).read? (.strings items) = some items :=
  read?_ofList fun s _ => read?_string s

end Decoder

/-! ### Records -/

@[simp] theorem Value.field?_nil (name : String) : (Value.object []).field? name = none := by
  simp only [field?, List.find?_nil, Option.map_none]

@[simp] theorem Value.field?_cons (key : String) (v : Value) (ms : List (String × Value))
    (name : String) : (Value.object ((key, v) :: ms)).field? name =
      if key = name then some v else (Value.object ms).field? name := by
  by_cases h : key = name <;> simp [field?, h]

@[simp] theorem Value.field?_append (ms others : List (String × Value)) (name : String) :
    (Value.object (ms ++ others)).field? name =
      ((Value.object ms).field? name).or ((Value.object others).field? name) := by
  simp only [field?, List.find?_append, Option.map_or]

/-- What the decoder makes of a member, and what there is without one. -/
def Decoder.readField? {α : Type} (decode : Decoder α) (absent : Option α) : Option Value → Option α
  | some v => decode.read? v
  | none => absent

-- By `simp` and not by `rfl`: else `simp` leaves it to the kernel to run the decoder.
@[simp] theorem Decoder.readField?_some {α : Type} (decode : Decoder α) (absent : Option α)
    (v : Value) : decode.readField? absent (some v) = decode.read? v := by simp only [readField?]

@[simp] theorem Decoder.readField?_none {α : Type} (decode : Decoder α) (absent : Option α) :
    decode.readField? absent none = absent := by simp only [readField?]

/-- The value, unless there is a fault. -/
def Placed.value? {α : Type} : Placed α → Option α
  | .value a => some a
  | .fault _ _ => none

namespace Placed
variable {α β : Type}

@[simp] theorem value?_map (f : α → β) (p : Placed α) : (f <$> p).value? = p.value?.map f := by
  cases p <;> rfl

@[simp] theorem value?_seq (f : Placed (α → β)) (p : Placed α) :
    (f <*> p).value? = f.value?.bind fun g => p.value?.map g := by
  cases f with
  | value g => cases p <;> rfl
  | fault i why =>
    cases p with
    | value a => rfl
    | fault j other =>
      show (if j < i then fault j other else fault i why : Placed β).value? = none
      split <;> rfl

theorem value?_ofExcept (i : Nat) (e : Except Fault α) : (ofExcept i e).value? = e.toOption := by
  cases e <;> rfl

theorem toOption_result (p : Placed α) : (p.result none).toOption = p.value? := by
  cases p <;> rfl

end Placed

namespace Row
variable {α : Type} {decode : Decoder α} {shape : Shape} {ms : List (String × Value)}
  {name : String}

/-- The fields of a record in memory. -/
def inMemory (shape : Shape) (ms : List (String × Value)) : Row :=
  ofMembers shape .memory (Draft.ofMembers ms) true

theorem keyRole_string (fields : List String) (key : String) :
    KeyRole.of fields .memory (.string key) =
      if key ∈ fields then .field key else .other := by
  simp [KeyRole.of]

/-- A field is the first member of its name. -/
theorem findField_ofMembers {fields : List String} (hname : name ∈ fields) (i : Nat) :
    (findField fields .memory name i (Draft.ofMembers ms)).map Prod.snd =
      ((Value.object ms).field? name).map Draft.ofValue := by
  induction ms generalizing i with
  | nil => rfl
  | cons m rest ih =>
    obtain ⟨key, v⟩ := m
    rw [Draft.ofMembers, findField, keyRole_string]
    by_cases hkey : key = name
    · subst hkey
      simp [hname]
    · have hothers : (Value.object ((key, v) :: rest)).field? name =
          (Value.object rest).field? name := by
        simp [hkey]
      rw [hothers, ← ih (i + 1)]
      by_cases hfield : key ∈ fields <;> simp [hfield, hkey]

/-- Members of distinct names have no fault. -/
theorem memberFault_ofMembers {fields : List String} (hnames : (ms.map Prod.fst).Nodup) (i : Nat)
    {seen : List String} (hseen : ∀ m ∈ ms, m.1 ∉ seen) :
    memberFault fields .memory true i seen (Draft.ofMembers ms) = none := by
  induction ms generalizing i seen with
  | nil => rfl
  | cons m rest ih =>
    obtain ⟨key, v⟩ := m
    obtain ⟨hkey, hrest⟩ := List.nodup_cons.mp hnames
    have hunseen : ∀ m ∈ rest, m.1 ∉ seen := fun m hm => hseen m (List.mem_cons_of_mem _ hm)
    rw [Draft.ofMembers, memberFault, keyRole_string]
    by_cases hfield : key ∈ fields
    · have hnew : key ∉ seen := hseen (key, v) (List.mem_cons_self ..)
      have hadded : ∀ m ∈ rest, m.1 ∉ key :: seen := by
        intro m hm
        rw [List.mem_cons, not_or]
        exact ⟨fun heq => hkey (List.mem_map.mpr ⟨m, hm, heq⟩), hunseen m hm⟩
      simpa [hfield, hnew] using ih hrest (i + 1) hadded
    · simpa [hfield] using ih hrest (i + 1) hunseen

/-- A field is what its decoder makes of the member of its name, or what is there without one. -/
theorem value?_slot (hname : name ∈ shape.fields) (absent : Placed α) :
    (match (inMemory shape ms).slot name with
      | some (i, d) => Placed.ofExcept i (decode .memory d)
      | none => absent).value? =
      decode.readField? absent.value? ((Value.object ms).field? name) := by
  have hslot : ((inMemory shape ms).slot name).map Prod.snd = _ := findField_ofMembers hname 0
  cases hfield : (Value.object ms).field? name with
  | none =>
    rw [hfield, Option.map_none, Option.map_eq_none_iff] at hslot
    rw [hslot, Decoder.readField?_none]
  | some v =>
    rw [hfield, Option.map_some, Option.map_eq_some_iff] at hslot
    obtain ⟨⟨i, d⟩, hslot, rfl⟩ := hslot
    rw [hslot, Decoder.readField?_some]
    exact Placed.value?_ofExcept i _

@[simp] theorem value?_required (hname : name ∈ shape.fields) :
    ((inMemory shape ms).required name decode).value? =
      decode.readField? none ((Value.object ms).field? name) :=
  value?_slot hname (.fault _ _)

@[simp] theorem value?_withDefault (hname : name ∈ shape.fields) (default : α) :
    ((inMemory shape ms).withDefault name decode default).value? =
      decode.readField? (some default) ((Value.object ms).field? name) :=
  value?_slot hname (.value default)

@[simp] theorem value?_nullable (hname : name ∈ shape.fields) :
    ((inMemory shape ms).nullable name decode).value? =
      decode.optional.readField? (some none) ((Value.object ms).field? name) :=
  value?_withDefault hname none

end Row

/-- A record is read field by field. -/
@[simp] theorem Decoder.read?_record {α : Type} {shape : Shape} {build : Row → Placed α}
    {ms : List (String × Value)} (hnames : (ms.map Prod.fst).Nodup) :
    (Decoder.record shape build).read? (.object ms) = (build (Row.inMemory shape ms)).value? := by
  have hfault : (Row.inMemory shape ms).fault = none :=
    Row.memberFault_ofMembers hnames 0 fun _ _ => List.not_mem_nil
  show ((build (Row.inMemory shape ms)).result (Row.inMemory shape ms).fault).toOption = _
  rw [hfault, Placed.toOption_result]

/-! ### Tagged choices -/

namespace Tagged
variable {α : Type} {tag : String} {variants : List (String × Decoder α)}
  {ms : List (String × Value)}

/-- Behind the tag nothing is found. -/
theorem scan_of_no_tag (hms : ∀ m ∈ ms, m.1 ≠ tag) (v : Decoder α) :
    scan tag variants .memory true (some v) (Draft.ofMembers ms) = .ok v := by
  induction ms with
  | nil => rfl
  | cons m rest ih =>
    have hm : (m.1 == tag) = false := beq_eq_false_iff_ne.mpr (hms m (List.mem_cons_self ..))
    have hrest := ih fun m hm => hms m (List.mem_cons_of_mem _ hm)
    simpa [Draft.ofMembers, scan, scan.isTag, scan.isKey, hm, Draft.fits] using hrest

/-- The tag is found wherever it stands. -/
theorem scan_ofMembers (hnames : (ms.map Prod.fst).Nodup) {name : String}
    (htag : (Value.object ms).field? tag = some (.string name)) :
    scan tag variants .memory true none (Draft.ofMembers ms) = Decoder.named variants name := by
  induction ms with
  | nil => cases htag
  | cons m rest ih =>
    obtain ⟨key, v⟩ := m
    obtain ⟨hkey, hrest⟩ := List.nodup_cons.mp hnames
    by_cases heq : key = tag
    · subst heq
      have hv : v = .string name := by simpa using htag
      have hothers : ∀ m ∈ rest, m.1 ≠ key :=
        fun m hm heq => hkey (List.mem_map.mpr ⟨m, hm, heq⟩)
      subst hv
      simp only [Draft.ofMembers, scan, scan.isTag, beq_self_eq_true, if_true, Draft.ofValue,
        variant, Decoder.identifier]
      cases hnamed : Decoder.named variants name with
      | error why => rfl
      | ok decode => exact scan_of_no_tag hothers decode
    · have hbehind : (Value.object rest).field? tag = some (.string name) := by
        simpa [heq] using htag
      simpa [Draft.ofMembers, scan, scan.isTag, scan.isKey, heq, Draft.fits] using ih hrest hbehind

theorem content_ofMembers :
    content tag (Draft.ofMembers ms) = Draft.ofMembers (ms.filter fun m => m.1 != tag) := by
  rw [content, Draft.ofMembers_eq_map, Draft.ofMembers_eq_map, List.filter_map]
  rfl

/-- A tagged choice is read as the record that its tag names, without the tag. -/
theorem read?_decoder {type : String} (hnames : (ms.map Prod.fst).Nodup) {name : String}
    (htag : (Value.object ms).field? tag = some (.string name)) :
    (decoder type tag variants).read? (.object ms) =
      (variants.find? fun v => v.1 == name).bind fun v =>
        v.2.read? (.object (ms.filter fun m => m.1 != tag)) := by
  have hscan : scan tag variants .memory true none (Draft.ofMembers ms) =
      Decoder.named variants name := scan_ofMembers hnames htag
  unfold Decoder.read? Decoder.ofValue
  simp only [decoder, Draft.ofValue, Source.deeper, hscan, Decoder.named, content_ofMembers]
  cases variants.find? fun v => v.1 == name <;> rfl

theorem read?_decoder_of_first {type name : String} {found : String × Decoder α}
    (hfound : (variants.find? fun v => v.1 == name) = some found) (htag : tag ∉ ms.map Prod.fst)
    (hnames : (ms.map Prod.fst).Nodup) :
    (decoder type tag variants).read? (.object ((tag, .string name) :: ms)) =
      found.2.read? (.object ms) := by
  have hothers : (ms.filter fun m => m.1 != tag) = ms :=
    List.filter_eq_self.mpr fun m hm => by
      simpa using fun heq : m.1 = tag => htag (heq ▸ List.mem_map_of_mem hm)
  have hall : (((tag, Value.string name) :: ms).map Prod.fst).Nodup :=
    List.nodup_cons.mpr ⟨htag, hnames⟩
  have hfirst : (Value.object ((tag, .string name) :: ms)).field? tag = some (.string name) := by
    simp
  rw [read?_decoder hall hfirst, hfound, Option.bind_some, List.filter_cons_of_neg (by simp),
    hothers]

end Tagged

/-! ### Any value -/

namespace Draft

theorem values?_map {items : List Value}
    (h : ∀ v ∈ items, (ofValue v).value? .memory = some v) :
    values? .memory (items.map ofValue) = some items := by
  induction items with
  | nil => rfl
  | cons v rest ih =>
    have hrest := ih fun w hw => h w (List.mem_cons_of_mem v hw)
    simp only [List.map_cons, values?, h v (List.mem_cons_self ..), hrest]

theorem members?_map {members : List (String × Value)}
    (h : ∀ m ∈ members, (ofValue m.2).value? .memory = some m.2) :
    members? .memory (members.map fun m => (.string m.1, ofValue m.2)) = some members := by
  induction members with
  | nil => rfl
  | cons m rest ih =>
    have hrest := ih fun w hw => h w (List.mem_cons_of_mem m hw)
    simp only [List.map_cons, members?, h m (List.mem_cons_self ..), hrest]

/-- A value is taken as it is when no object in it has two members of one name. -/
theorem value?_ofValue {v : Value} (h : v.DistinctKeys) : (ofValue v).value? .memory = some v := by
  induction h with
  | array _ ih => simp [ofValue, value?, Source.deeper, ofValues_eq_map, values?_map ih]
  | object hnames _ ih =>
    simp [ofValue, value?, Source.deeper, ofMembers_eq_map, members?_map ih,
      OrderedMap.entries_ofList hnames]
  | _ => rfl

end Draft

/-- A map is taken back when its values are taken as they are. -/
theorem Decoder.read?_map {m : OrderedMap Value} (h : ∀ e ∈ m.entries, e.2.DistinctKeys) :
    map.read? (.object m.entries) = some m := by
  have hmembers := Draft.members?_map fun e he => Draft.value?_ofValue (h e he)
  rw [read?_eq_some_iff, ofValue, Draft.ofValue, Draft.ofMembers_eq_map]
  simp only [map, Source.deeper, hmembers, Except.ok.injEq]
  exact OrderedMap.ext (OrderedMap.entries_ofList m.distinct)

end BuilderLint.Json
