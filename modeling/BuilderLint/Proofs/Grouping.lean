import BuilderLint.Proofs.Discovery
import Mathlib.Data.List.Forall2

/-! The groups of what is discovered.

A method name makes a requirement when a method of that name is mandatory, and the first
such method makes it. The groups take the requirements apart by their keys: nothing is
lost, nothing is doubled, and the order is that of discovery (`Groups.Lawful`). Groups and
messages are texts with something in them; an attribute that says nothing is as good as
none (`discover_lawful`). -/
namespace BuilderLint

/-! ### Taking a list apart by keys -/

/-- A list is put together again from its parts under distinct keys. -/
theorem flatMap_filter_key_perm {α : Type} (key : α → String) {keys : List String}
    (hkeys : keys.Nodup) {l : List α} (hl : ∀ a ∈ l, key a ∈ keys) :
    (keys.flatMap fun k => l.filter fun a => key a == k).Perm l := by
  induction keys generalizing l with
  | nil =>
    have hnil : l = [] := List.eq_nil_iff_forall_not_mem.mpr fun a ha => by cases hl a ha
    rw [hnil]
    exact List.Perm.nil
  | cons k rest ih =>
    obtain ⟨hk, hrest⟩ := List.nodup_cons.mp hkeys
    -- the parts under the other keys are parts of what is left without `k`
    have hothers : (rest.flatMap fun k' => l.filter fun a => key a == k') =
        rest.flatMap fun k' => (l.filter fun a => !(key a == k)).filter fun a => key a == k' := by
      refine List.flatMap_congr fun k' hk' => ?_
      rw [List.filter_filter]
      refine List.filter_congr fun a _ => ?_
      by_cases ha : key a = k'
      · have hne : k' ≠ k := fun h => hk (h ▸ hk')
        simp [ha, hne]
      · simp [ha]
    have hleft : ∀ a ∈ l.filter fun a => !(key a == k), key a ∈ rest := by
      intro a ha
      rw [List.mem_filter] at ha
      have hne : key a ≠ k := by simpa using ha.2
      exact (List.mem_cons.mp (hl a ha.1)).resolve_left hne
    calc ((k :: rest).flatMap fun k' => l.filter fun a => key a == k')
        = (l.filter fun a => key a == k) ++
            rest.flatMap fun k' => (l.filter fun a => !(key a == k)).filter fun a => key a == k' := by
          rw [List.flatMap_cons, hothers]
      _ |>.Perm ((l.filter fun a => key a == k) ++ l.filter fun a => !(key a == k)) :=
          (ih hrest hleft).append_left _
      _ |>.Perm l := List.filter_append_perm _ l

/-! ### Lawful groups -/

/-- The groups are the requirements, taken apart by their keys. -/
structure Groups.Lawful (groups : Groups) (requirements : List Requirement) : Prop where
  distinct : groups.keys.Nodup
  /-- The keys stand in the order of their first requirements. -/
  in_order : groups.keys = (requirements.map Requirement.key).eraseDups
  nonempty : ∀ g ∈ groups.entries, g.2 ≠ []
  members : ∀ g ∈ groups.entries, ∀ r ∈ g.2, r.key = g.1
  /-- The members of a group stand in the order of the requirements. -/
  members_in_order : ∀ g ∈ groups.entries, g.2.Sublist requirements
  /-- Every requirement stands in one group, once. -/
  complete : groups.values.flatten.Perm requirements

theorem Groups.lawful_ofRequirements (requirements : List Requirement) :
    (ofRequirements requirements).Lawful requirements where
  distinct := OrderedMap.nodup_keys _
  in_order := keys_ofRequirements requirements
  nonempty := fun _ hg => ne_nil_of_mem_entries requirements hg
  members := fun _ hg _ hr => (mem_of_mem_group requirements hg hr).2
  members_in_order := by
    intro g hg
    rw [entries_ofRequirements, List.mem_map] at hg
    obtain ⟨key, -, rfl⟩ := hg
    exact List.filter_sublist
  complete := by
    have hparts : (ofRequirements requirements).values.flatten =
        (requirements.map Requirement.key).eraseDups.flatMap fun key =>
          requirements.filter fun r => r.key == key := by
      rw [OrderedMap.values, entries_ofRequirements, List.map_map]
      rfl
    rw [hparts]
    refine flatMap_filter_key_perm Requirement.key (OrderedMap.nodup_eraseDups _) fun r hr => ?_
    exact List.mem_eraseDups.mpr (List.mem_map_of_mem hr)

/-! ### What makes a requirement -/

/-- `m` is the first mandatory method of that name. -/
def MethodDecl.FirstMandatory (names : MarkNames) (methods : List MethodDecl) (name : String)
    (m : MethodDecl) : Prop :=
  ∃ before after, methods = before ++ m :: after ∧ m.isMandatory names = true ∧ m.name = name ∧
    ∀ b ∈ before, b.isMandatory names = true → b.name ≠ name

theorem MethodDecl.firstMandatory_iff (names : MarkNames) (methods : List MethodDecl)
    (name : String) (m : MethodDecl) :
    FirstMandatory names methods name m ↔
      (methods.find? fun m => m.isMandatory names && m.name == name) = some m := by
  rw [List.find?_eq_some_iff_append]
  constructor
  · intro h
    obtain ⟨before, after, hsplit, hmarked, hname, hfirst⟩ := h
    exact ⟨by simp [hmarked, hname], before, after, hsplit, by
      simpa [or_iff_not_imp_left] using hfirst⟩
  · intro h
    obtain ⟨hm, before, after, hsplit, hfirst⟩ := h
    rw [Bool.and_eq_true, beq_iff_eq] at hm
    exact ⟨before, after, hsplit, hm.1, hm.2, by simpa [or_iff_not_imp_left] using hfirst⟩

/-- An attribute that says nothing: there is none, or it is no text, or one of white space only. -/
def SaysNothing : Option Json.Value → Prop
  | some (.string s) => ∀ c ∈ s.toList, Text.isSpace c = true
  | _ => True

theorem SaysNothing.nonBlank {v : Option Json.Value} (h : SaysNothing v) :
    (v.bind Json.Value.text?).bind Text.nonBlank = none := by
  match v with
  | none => rfl
  | some (.string s) =>
    have hblank : Text.isBlank s = true := by simpa [Text.isBlank, SaysNothing] using h
    show Text.nonBlank s = none
    rw [Text.nonBlank, if_pos hblank]
  | some .null => rfl
  | some (.bool _) => rfl
  | some (.number _) => rfl
  | some (.array _) => rfl
  | some (.object _) => rfl

/-- The marks are the same but for groups and messages that say nothing. -/
structure Mark.SaysSame (m m' : Mark) : Prop where
  name : m'.name = m.name
  attributes : ∀ key ∈ [groupAttribute, messageAttribute],
    m'.attributes.get? key = m.attributes.get? key ∨
      SaysNothing (m.attributes.get? key) ∧ SaysNothing (m'.attributes.get? key)

/-- The methods are the same but for groups and messages that say nothing. -/
structure MethodDecl.SaysSame (m m' : MethodDecl) : Prop where
  name : m'.name = m.name
  marks : List.Forall₂ Mark.SaysSame m.marks m'.marks

theorem Mark.SaysSame.nonBlank {m m' : Mark} (h : m.SaysSame m') (key : String)
    (hkey : key ∈ [groupAttribute, messageAttribute]) :
    (m'.text? key).bind Text.nonBlank = (m.text? key).bind Text.nonBlank := by
  rw [text?, text?]
  rcases h.attributes key hkey with heq | ⟨hnothing, hnothing'⟩
  · rw [heq]
  · rw [hnothing.nonBlank, hnothing'.nonBlank]

theorem Mark.find?_of_saysSame {marks marks' : List Mark}
    (h : List.Forall₂ Mark.SaysSame marks marks') (name : String) :
    Option.Rel Mark.SaysSame (find? marks name) (find? marks' name) := by
  induction h with
  | nil => exact .none
  | @cons m m' rest rest' hm _ ih =>
    unfold find? at ih ⊢
    rw [List.find?_cons, List.find?_cons, hm.name]
    cases m.name == name with
    | true => exact .some hm
    | false => exact ih

namespace Requirement

theorem ofMethod?_of_saysSame (names : MarkNames) (naming : Naming) {m m' : MethodDecl}
    (h : m.SaysSame m') : ofMethod? names naming m' = ofMethod? names naming m := by
  have hfound := Mark.find?_of_saysSame h.marks names.mandatory
  unfold ofMethod?
  generalize Mark.find? m.marks names.mandatory = o, Mark.find? m'.marks names.mandatory = o'
    at hfound ⊢
  cases hfound with
  | none => rfl
  | some hmark =>
    have hgroup := hmark.nonBlank groupAttribute (by simp)
    have hmessage := hmark.nonBlank messageAttribute (by simp)
    simp only [Option.map_some, hgroup, hmessage, h.name]

theorem byMethod_of_saysSame (names : MarkNames) (naming : Naming)
    {methods methods' : List MethodDecl} (h : List.Forall₂ MethodDecl.SaysSame methods methods') :
    byMethod names naming methods' = byMethod names naming methods := by
  unfold byMethod
  congr 1
  induction h with
  | nil => rfl
  | cons hm _ ih =>
    rw [List.filterMap_cons, List.filterMap_cons, ofMethod?_of_saysSame names naming hm, hm.name, ih]

/-- The group and the message of a requirement have something in them. -/
theorem not_blank_of_ofMethod? {names : MarkNames} {naming : Naming} {m : MethodDecl}
    {r : Requirement} (h : ofMethod? names naming m = some r) {t : String}
    (ht : r.group = some t ∨ r.message = some t) : ∃ c ∈ t.toList, Text.isSpace c = false := by
  obtain ⟨mark, -, rfl⟩ := Option.map_eq_some_iff.mp h
  have hsaid : ∃ key, (mark.text? key).bind Text.nonBlank = some t := by
    rcases ht with ht | ht
    · exact ⟨groupAttribute, by cases hp : naming.property? m.name <;> simpa [hp] using ht⟩
    · exact ⟨messageAttribute, by cases hp : naming.property? m.name <;> simpa [hp] using ht⟩
  obtain ⟨key, hkey⟩ := hsaid
  obtain ⟨s, -, hs⟩ := Option.bind_eq_some_iff.mp hkey
  obtain ⟨-, hblank⟩ := (Text.nonBlank_eq_some_iff s t).mp hs
  simpa [Text.isBlank] using hblank

end Requirement

namespace Detector

/-- **What is discovered is a lawful grouping.** Every name of a mandatory method has one requirement,
made by the first mandatory method of that name, and no other name has any. The groups are these
requirements, in the order of discovery, taken apart by their keys. No group and no message is
blank; one that is blank or no text makes no difference. -/
theorem discover_lawful (d : Detector) (methods : List MethodDecl) :
    (∃ required : OrderedMap Requirement,
      required.keys =
        ((methods.filter (·.isMandatory d.names)).map MethodDecl.name).eraseDups ∧
      (∀ name r, required.get? name = some r ↔
        ∃ m, MethodDecl.FirstMandatory d.names methods name m ∧
          Requirement.ofMethod? d.names d.naming m = some r) ∧
      (d.discover methods).Lawful required.values ∧
      ∀ r ∈ required.values, ∀ t, r.group = some t ∨ r.message = some t →
        ∃ c ∈ t.toList, Text.isSpace c = false) ∧
    ∀ methods', List.Forall₂ MethodDecl.SaysSame methods methods' →
      d.discover methods' = d.discover methods := by
  have hread : ∀ name r, (Requirement.byMethod d.names d.naming methods).get? name = some r ↔
      ∃ m, MethodDecl.FirstMandatory d.names methods name m ∧
        Requirement.ofMethod? d.names d.naming m = some r := by
    intro name r
    rw [Requirement.get?_byMethod, Option.bind_eq_some_iff]
    simp only [MethodDecl.firstMandatory_iff]
  refine ⟨⟨Requirement.byMethod d.names d.naming methods, ?_, hread, ?_, ?_⟩, ?_⟩
  · exact Requirement.keys_byMethod d.names d.naming methods
  · exact Groups.lawful_ofRequirements _
  · intro r hr t ht
    obtain ⟨name, hname⟩ := (Requirement.mem_ofMethods_iff d.names d.naming methods r).mp hr
    obtain ⟨m, -, hm⟩ := (hread name r).mp hname
    exact Requirement.not_blank_of_ofMethod? hm ht
  · intro methods' h
    rw [discover, discover, Requirement.ofMethods, Requirement.ofMethods,
      Requirement.byMethod_of_saysSame d.names d.naming h]

/-- A method that is declared three times, first without a mark, then in two groups; and one with
these attributes. -/
def redeclared (attributes : OrderedMap Json.Value) : List MethodDecl :=
  [⟨"setPort", []⟩,
    .grouped (.ofPackage defaultPackage) "setPort" "address",
    .grouped (.ofPackage defaultPackage) "setPort" "retries",
    ⟨"setHost", [⟨(MarkNames.ofPackage defaultPackage).mandatory, attributes⟩]⟩]

/-- A blank group and a number for a message, instead of none. -/
theorem discover_lawful_redeclared :
    let d : Detector := { names := .ofPackage defaultPackage }
    let silent : OrderedMap Json.Value :=
      .ofList [(groupAttribute, .string " \t"), (messageAttribute, .number (.whole 5))]
    List.Forall₂ MethodDecl.SaysSame (redeclared silent) (redeclared ∅) ∧
      d.discover (redeclared ∅) = d.discover (redeclared silent) ∧
      (d.discover (redeclared silent)).entries =
        [("address", [⟨"port", .property, some "address", none⟩]),
          ("host", [⟨"host", .property, none, none⟩])] := by
  intro d silent
  have hsame : ∀ marks : List Mark, List.Forall₂ Mark.SaysSame marks marks :=
    fun _ => List.forall₂_same.mpr fun _ _ => ⟨rfl, fun _ _ => .inl rfl⟩
  have hsilent : Mark.SaysSame ⟨d.names.mandatory, silent⟩ ⟨d.names.mandatory, ∅⟩ := by
    refine ⟨rfl, fun key hkey => .inr ⟨?_, trivial⟩⟩
    rcases List.mem_pair.mp hkey with rfl | rfl
    · show ∀ c ∈ " \t".toList, Text.isSpace c = true
      exact List.all_eq_true.mp (by decide)
    · exact True.intro
  have hmethods : List.Forall₂ MethodDecl.SaysSame (redeclared silent) (redeclared ∅) :=
    .cons ⟨rfl, hsame _⟩ (.cons ⟨rfl, hsame _⟩ (.cons ⟨rfl, hsame _⟩
      (.cons ⟨rfl, .cons hsilent .nil⟩ .nil)))
  exact ⟨hmethods, (d.discover_lawful (redeclared silent)).2 _ hmethods, by decide⟩

end Detector
end BuilderLint
