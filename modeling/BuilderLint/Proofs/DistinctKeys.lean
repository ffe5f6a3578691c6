import BuilderLint.Facts.Load
import BuilderLint.Proofs.Decoding

/-! Values that were read.

An object that was read, from JSON or from YAML, in a text or in memory, does not have two
members of one name: the later one stands in the place of the earlier. What holds of all
that the parts of a decoder or of a reader give goes over to what is built from them
(`Yields`), so the attributes of every document that was loaded have distinct keys
throughout (`Document.yields_decode`, `Document.distinctKeys_of_ofText`). -/
namespace BuilderLint
open Json (Value Draft Decoder Row Placed Shape Fault)

/-! ### Drafts -/

namespace Json.Draft

mutual

theorem distinctKeys_of_value? {source : Source} :
    {d : Draft} → {v : Value} → d.value? source = some v → v.DistinctKeys
  | .null, _, h => by
    cases h
    exact .null
  | .bool b, _, h => by
    cases h
    exact .bool b
  | .number n, _, h => by
    cases h
    exact .number n
  | .string s, _, h => by
    cases h
    exact .string s
  | .array items whole, v, h => by
    cases hinner : source.deeper with
    | none => simp [value?, hinner] at h
    | some inner =>
      cases whole with
      | false => simp [value?, hinner] at h
      | true =>
        simp only [value?, hinner, Option.map_eq_some_iff] at h
        obtain ⟨vs, hvs, rfl⟩ := h
        exact .array (distinctKeys_of_values? hvs)
  | .object members whole, v, h => by
    cases hinner : source.deeper with
    | none => simp [value?, hinner] at h
    | some inner =>
      cases whole with
      | false => simp [value?, hinner] at h
      | true =>
        simp only [value?, hinner, Option.map_eq_some_iff] at h
        obtain ⟨ms, hms, rfl⟩ := h
        exact .object (OrderedMap.distinct _) fun m hm =>
          distinctKeys_of_members? hms m (OrderedMap.mem_of_mem_ofList hm)
  | .unusable, _, h => by cases h
  | .broken, _, h => by cases h

theorem distinctKeys_of_values? {source : Source} :
    {ds : List Draft} → {vs : List Value} → values? source ds = some vs →
      ∀ v ∈ vs, v.DistinctKeys
  | [], _, h => by
    cases h
    exact List.forall_mem_nil _
  | d :: rest, vs, h => by
    cases hd : value? source d with
    | none => simp [values?, hd] at h
    | some v =>
      cases hrest : values? source rest with
      | none => simp [values?, hd, hrest] at h
      | some others =>
        simp only [values?, hd, hrest, Option.some.injEq] at h
        subst h
        exact List.forall_mem_cons.mpr
          ⟨distinctKeys_of_value? hd, distinctKeys_of_values? hrest⟩

theorem distinctKeys_of_members? {source : Source} :
    {ds : List (Draft × Draft)} → {ms : List (String × Value)} → members? source ds = some ms →
      ∀ m ∈ ms, m.2.DistinctKeys
  | [], _, h => by
    cases h
    exact List.forall_mem_nil _
  | (.string key, d) :: rest, ms, h => by
    cases hd : value? source d with
    | none => simp [members?, hd] at h
    | some v =>
      cases hrest : members? source rest with
      | none => simp [members?, hd, hrest] at h
      | some others =>
        simp only [members?, hd, hrest, Option.some.injEq] at h
        subst h
        exact List.forall_mem_cons.mpr
          ⟨distinctKeys_of_value? hd, distinctKeys_of_members? hrest⟩
  | (.null, _) :: _, _, h => by simp [members?] at h
  | (.bool _, _) :: _, _, h => by simp [members?] at h
  | (.number _, _) :: _, _, h => by simp [members?] at h
  | (.array _ _, _) :: _, _, h => by simp [members?] at h
  | (.object _ _, _) :: _, _, h => by simp [members?] at h
  | (.unusable, _) :: _, _, h => by simp [members?] at h
  | (.broken, _) :: _, _, h => by simp [members?] at h

end

end Json.Draft

/-! ### What decoders give -/

namespace Json
variable {α β : Type} {P : α → Prop} {Q : β → Prop} {decode : Decoder α}

/-- What is given, unless there is a fault, has the property. -/
def Yields (e : Except Fault α) (P : α → Prop) : Prop := ∀ a, e = .ok a → P a

/-- What is built from the parts of a record has the property. -/
def Placed.Yields (p : Placed α) (P : α → Prop) : Prop := ∀ a, p = .value a → P a

/-- All that the decoder gives has the property. -/
def Decoder.Yields (decode : Decoder α) (P : α → Prop) : Prop :=
  ∀ source d, Json.Yields (decode source d) P

namespace Yields

theorem ok {a : α} (h : P a) : Yields (.ok a) P := by
  intro b hb
  cases hb
  exact h

theorem error (why : Fault) : Yields (.error why : Except Fault α) P := by
  intro a ha
  cases ha

theorem bind {e : Except Fault β} {f : β → Except Fault α} (he : Yields e Q)
    (hf : ∀ b, Q b → Yields (f b) P) : Yields (e >>= f) P := by
  cases e with
  | ok b => exact hf b (he b rfl)
  | error why => exact error why

end Yields

namespace Placed.Yields

theorem any (p : Placed α) : p.Yields fun _ => True := fun _ _ => trivial

theorem map {p : Placed β} {f : β → α} (h : p.Yields Q) (hf : ∀ b, Q b → P (f b)) :
    (f <$> p).Yields P := by
  intro a ha
  cases p with
  | value b =>
    cases ha
    exact hf b (h b rfl)
  | fault i why => cases ha

theorem seq {f : Placed (β → α)} {p : Placed β} (hf : f.Yields fun g => ∀ b, Q b → P (g b))
    (hp : p.Yields Q) : (f <*> p).Yields P := by
  intro a ha
  have hvalue := congrArg Placed.value? ha
  rw [Placed.value?_seq] at hvalue
  cases f with
  | value g =>
    cases p with
    | value b =>
      cases hvalue
      exact hf g rfl b (hp b rfl)
    | fault i why => cases hvalue
  | fault i why => cases hvalue

theorem ofExcept {e : Except Fault α} (h : Json.Yields e P) (i : Nat) :
    (Placed.ofExcept i e).Yields P := by
  intro a ha
  cases e with
  | ok b =>
    cases ha
    exact h a rfl
  | error why => cases ha

theorem result {p : Placed α} (h : p.Yields P) (elsewhere : Option (Nat × Fault)) :
    Json.Yields (p.result elsewhere) P := by
  intro a ha
  cases p with
  | value b =>
    cases elsewhere with
    | none =>
      cases ha
      exact h a rfl
    | some other => cases ha
  | fault i why =>
    cases elsewhere <;> cases ha

end Placed.Yields

namespace Decoder

theorem yields_record {shape : Shape} {build : Row → Placed α} (h : ∀ row, (build row).Yields P) :
    (record shape build).Yields P := by
  intro source d
  unfold record
  split
  · split
    · exact .error _
    · exact (h _).result _
  · split
    · exact .error _
    · exact (h _).result _
  · exact .error _

theorem yields_list (h : decode.Yields P) : decode.list.Yields fun as => ∀ a ∈ as, P a := by
  have hitems : ∀ source ds, Json.Yields (listItems decode source ds) fun as => ∀ a ∈ as, P a := by
    intro source ds
    induction ds with
    | nil => exact .ok (List.forall_mem_nil P)
    | cons d rest ih =>
      exact .bind (h source d) fun a ha => .bind ih fun as has =>
        .ok (List.forall_mem_cons.mpr ⟨ha, has⟩)
  intro source d
  unfold list
  split
  · split
    · exact .error _
    · refine .bind (hitems _ _) fun as has => ?_
      split
      · exact .ok has
      · exact .error _
  · exact .error _

theorem yields_map : map.Yields fun m => ∀ e ∈ m.entries, e.2.DistinctKeys := by
  intro source d
  unfold map
  split
  · split
    · split
      · rename_i ms hms
        exact .ok fun e he => Draft.distinctKeys_of_members? hms e (OrderedMap.mem_of_mem_ofList he)
      · exact .error _
    · exact .error _
  · exact .error _

theorem yields_ofText (h : decode.Yields P) (text : String) :
    Json.Yields (decode.ofText text) P := by
  unfold ofText
  obtain ⟨d, finished⟩ := Draft.read text
  refine .bind (h .wholeText d) fun a ha => ?_
  split
  · exact .ok ha
  · exact .error _

end Decoder

namespace Row

theorem yields_withDefault (row : Row) (name : String) (h : decode.Yields P) (default : α)
    (hdefault : P default) : (row.withDefault name decode default).Yields P := by
  unfold withDefault
  split
  · exact .ofExcept (h _ _) _
  · intro a ha
    cases ha
    exact hdefault

/-- A list that may be left out. -/
theorem yields_list (row : Row) (name : String) (h : decode.Yields P) :
    (row.withDefault name decode.list []).Yields fun as => ∀ a ∈ as, P a :=
  row.yields_withDefault name (Decoder.yields_list h) [] (List.forall_mem_nil P)

end Row
end Json

/-! ### What readers of YAML give -/

namespace Yaml
variable {α β : Type} {P : α → Prop} {Q : β → Prop}

/-- All that the step can give has the property. -/
def Reading.Yields (r : Reading α) (P : α → Prop) : Prop :=
  ∀ tree jumps a after, (r.run tree).run jumps = some (a, after) → P a

namespace Reading.Yields

theorem any (r : Reading α) : r.Yields fun _ => True := fun _ _ _ _ _ => trivial

theorem pure {a : α} (h : P a) : Reading.Yields (Pure.pure a) P := by
  intro tree jumps b after hb
  cases hb
  exact h

theorem failure : Reading.Yields (Alternative.failure : Reading α) P := by
  intro tree jumps b after hb
  cases hb

theorem bind {r : Reading β} {f : β → Reading α} (hr : r.Yields Q)
    (hf : ∀ b, Q b → (f b).Yields P) : (r >>= f).Yields P := by
  intro tree jumps a after ha
  obtain ⟨⟨b, between⟩, hb, ha⟩ := Option.bind_eq_some_iff.mp ha
  exact hf b (hr tree jumps b between hb) tree between a after ha

theorem mapM {f : β → Reading α} (hf : ∀ b, (f b).Yields P) (bs : List β) :
    (bs.mapM f).Yields fun as => ∀ a ∈ as, P a := by
  induction bs with
  | nil =>
    rw [List.mapM_nil]
    exact pure (List.forall_mem_nil P)
  | cons b rest ih =>
    rw [List.mapM_cons]
    exact bind (hf b) fun a ha => bind ih fun as has =>
      pure (List.forall_mem_cons.mpr ⟨ha, has⟩)

end Reading.Yields

/-- All that the reader gives has the property. -/
def NodeReader.Yields (reader : NodeReader α) (P : α → Prop) : Prop :=
  ∀ levels node, (reader levels node).Yields P

/-- A step that is only taken unless something else is the case. -/
theorem Reading.Yields.orFail {c : Prop} [Decidable c] {next : PUnit → Reading α}
    (h : (next ⟨⟩).Yields P) : (if c then Alternative.failure >>= next else next ⟨⟩).Yields P := by
  split
  · exact bind failure fun _ h => absurd h id
  · exact h

theorem yields_scalarValue (tag : Option String) (style : Style) (s : String) :
    (NodeReader.scalarValue tag style s).Yields Value.DistinctKeys := by
  unfold NodeReader.scalarValue
  split
  · exact .pure .null
  · exact .pure (.bool _)
  · exact .pure (.number _)
  · refine .pure ?_
    split
    · exact .number _
    · exact .null
  · exact .pure (.string _)
  · exact .failure

theorem NodeReader.yields_value : value.Yields Value.DistinctKeys := by
  intro levels
  induction levels with
  | zero =>
    intro node
    unfold value
    refine .bind (.any _) fun node _ => ?_
    cases node with
    | scalar tag style s => exact yields_scalarValue tag style s
    | _ => exact .failure
  | succ levels ih =>
    intro node
    unfold value
    refine .bind (.any _) fun node _ => ?_
    cases node with
    | scalar tag style s => exact yields_scalarValue tag style s
    | sequence tag items =>
      exact .orFail (.bind (.mapM ih items) fun _ hvalues => .pure (.array hvalues))
    | mapping tag members =>
      refine .orFail (.bind (Q := fun ms => ∀ m ∈ ms, m.2.DistinctKeys)
        (.mapM (fun m => ?_) members)
        fun ms hms => .pure (.object (OrderedMap.distinct _) ?_))
      · exact .bind (.any _) fun key _ => .bind (ih m.2) fun v hv => .pure hv
      · exact fun m hm => hms m (OrderedMap.mem_of_mem_ofList hm)
    | _ => exact .failure

theorem NodeReader.yields_map : map.Yields fun m => ∀ e ∈ m.entries, e.2.DistinctKeys := by
  intro levels node
  refine .bind (.any _) fun ms _ => .bind (Q := fun ms => ∀ m ∈ ms, m.2.DistinctKeys)
    (.mapM (fun m => ?_) ms.members) fun entries hentries => .pure ?_
  · exact .bind (yields_value ms.levels m.2) fun v hv => .pure hv
  · exact fun e he => hentries e (OrderedMap.mem_of_mem_ofList he)

theorem NodeReader.yields_list {reader : NodeReader α} (h : reader.Yields P) :
    reader.list.Yields fun as => ∀ a ∈ as, P a := by
  intro levels node
  refine .bind (.any _) fun node _ => ?_
  split
  · exact .pure (List.forall_mem_nil P)
  · split
    · exact .mapM (h _) _
    · exact .failure

theorem NodeReader.Members.yields_withDefault {reader : NodeReader α} (ms : Members) (name : String)
    (h : reader.Yields P) (default : α) (hdefault : P default) :
    (ms.withDefault name reader default).Yields P := by
  refine .bind (.any _) fun found _ => ?_
  cases found with
  | none => exact .pure hdefault
  | some node => exact h ms.levels node

/-- A list that may be left out. -/
theorem NodeReader.Members.yields_list {reader : NodeReader α} (ms : Members) (name : String)
    (h : reader.Yields P) :
    (ms.withDefault name reader.list []).Yields fun as => ∀ a ∈ as, P a :=
  ms.yields_withDefault name (NodeReader.yields_list h) [] (List.forall_mem_nil P)

theorem of_readText? {reader : NodeReader α} (h : reader.Yields P) {text : String} {a : α}
    (ha : readText? reader text = some a) : P a := by
  obtain ⟨tree, -, ha⟩ := Option.bind_eq_some_iff.mp ha
  obtain ⟨⟨b, jumps⟩, hb, ha⟩ := Option.bind_eq_some_iff.mp ha
  cases ha
  exact h 128 _ tree 0 a jumps hb

end Yaml

/-! ### Documents -/

/-- No attribute holds an object with two members of one name. -/
def Mark.DistinctKeys (m : Mark) : Prop := ∀ e ∈ m.attributes.entries, e.2.DistinctKeys

def MethodDecl.DistinctKeys (m : MethodDecl) : Prop := ∀ mark ∈ m.marks, mark.DistinctKeys

structure ClassDecl.DistinctKeys (c : ClassDecl) : Prop where
  marks : ∀ mark ∈ c.marks, mark.DistinctKeys
  methods : ∀ m ∈ c.methods, m.DistinctKeys

def Document.DistinctKeys (d : Document) : Prop := ∀ c ∈ d.classes, c.DistinctKeys

theorem Mark.yields_decode : decode.Yields DistinctKeys := by
  refine Decoder.yields_record fun row => ?_
  have hattributes := row.yields_withDefault "attributes" Decoder.yields_map ∅
    (List.forall_mem_nil _)
  exact .seq (.map (.any _) fun _ _ _ h => h) hattributes

theorem MethodDecl.yields_decode : decode.Yields DistinctKeys := by
  refine Decoder.yields_record fun row => ?_
  have hmarks := row.yields_list "annotations" Mark.yields_decode
  exact .seq (.map (.any _) fun _ _ _ h => h) hmarks

theorem ClassDecl.yields_decode : decode.Yields DistinctKeys := by
  refine Decoder.yields_record fun row => ?_
  have hmarks := row.yields_list "annotations" Mark.yields_decode
  have hmethods := row.yields_list "methods" MethodDecl.yields_decode
  exact .seq (.seq (.seq (.map (.any _) fun _ _ _ _ _ h _ h' => ⟨h, h'⟩) (.any _)) hmarks) hmethods

theorem Document.yields_decode : decode.Yields DistinctKeys := by
  refine Decoder.yields_record fun row => ?_
  have hclasses := row.yields_list "classes" ClassDecl.yields_decode
  exact .seq (.map hclasses fun _ h _ _ => h) (.any _)

theorem Mark.yields_ofYaml : Yaml.NodeReader.Yields ofYaml DistinctKeys := by
  intro levels node
  refine .bind (.any _) fun ms _ => .bind (.any _) fun name _ => ?_
  refine .bind (ms.yields_withDefault "attributes" Yaml.NodeReader.yields_map ∅
    (List.forall_mem_nil _)) fun attributes hattributes => ?_
  exact .pure hattributes

theorem MethodDecl.yields_ofYaml : Yaml.NodeReader.Yields ofYaml DistinctKeys := by
  intro levels node
  refine .bind (.any _) fun ms _ => .bind (.any _) fun name _ => ?_
  refine .bind (ms.yields_list "annotations" Mark.yields_ofYaml) fun marks hmarks => ?_
  exact .pure hmarks

theorem ClassDecl.yields_ofYaml : Yaml.NodeReader.Yields ofYaml DistinctKeys := by
  intro levels node
  refine .bind (.any _) fun ms _ => .bind (.any _) fun name _ => .bind (.any _) fun supers _ => ?_
  refine .bind (ms.yields_list "annotations" Mark.yields_ofYaml) fun marks hmarks => ?_
  refine .bind (ms.yields_list "methods" MethodDecl.yields_ofYaml) fun methods hmethods => ?_
  exact .pure ⟨hmarks, hmethods⟩

theorem Document.yields_ofYaml : Yaml.NodeReader.Yields ofYaml DistinctKeys := by
  intro levels node
  refine .bind (.any _) fun ms _ => ?_
  refine .bind (ms.yields_list "classes" ClassDecl.yields_ofYaml) fun classes hclasses => ?_
  exact .bind (.any _) fun lambdas _ => .pure hclasses

/-- Documents that were loaded have distinct keys, whichever format they are written in. -/
theorem Document.distinctKeys_of_ofText {format : Format} {path text : String} {d : Document}
    (h : ofText format path text = .ok d) : d.DistinctKeys := by
  cases format with
  | yaml =>
    rw [ofText] at h
    split at h
    · cases h
      exact List.forall_mem_nil _
    · split at h
      · rename_i found hfound
        cases h
        exact Yaml.of_readText? yields_ofYaml hfound
      · cases h
  | json =>
    rw [ofText] at h
    split at h
    · rename_i found hfound
      cases h
      exact Decoder.yields_ofText yields_decode text _ hfound
    · cases h

end BuilderLint
