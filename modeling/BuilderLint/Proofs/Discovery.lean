import BuilderLint.Detector

/-! What is discovered among the methods of a class.

A method name makes a requirement when a method of that name is marked, and the
first such method makes it (`get?_byMethod`). Groups stand in the order in which
their keys first occur, and a group holds the requirements with its key, in the
order of discovery (`entries_discover`). -/
namespace BuilderLint

/-- Whether the method is a requirement. -/
def MethodDecl.isMandatory (names : MarkNames) (m : MethodDecl) : Bool :=
  (Mark.find? m.marks names.mandatory).isSome

/-- A method with the mandatory mark, in a group. -/
def MethodDecl.grouped (names : MarkNames) (name group : String) : MethodDecl where
  name := name
  marks := [{ name := names.mandatory, attributes := .ofList [(groupAttribute, .string group)] }]

/-- Which later elements stand in a relation to all earlier ones, split by split. -/
theorem pairwise_of_splits {α : Type} {R : α → α → Prop} {l : List α}
    (h : ∀ before a after, l = before ++ a :: after → ∀ b ∈ before, R b a) : l.Pairwise R := by
  rw [List.pairwise_iff_getElem]
  intro i j hi hj hij
  refine h (l.take j) l[j] (l.drop (j + 1)) ?_ l[i] ?_
  · rw [← List.drop_eq_getElem_cons hj, List.take_append_drop]
  · exact List.mem_take_iff_getElem.mpr ⟨i, by omega, rfl⟩

namespace Requirement
variable (names : MarkNames) (naming : Naming)

theorem isSome_ofMethod? (m : MethodDecl) :
    (ofMethod? names naming m).isSome = m.isMandatory names := by
  simp [ofMethod?, MethodDecl.isMandatory]

@[simp] theorem isMandatory_grouped (name group : String) :
    (MethodDecl.grouped names name group).isMandatory names = true := by
  simp [MethodDecl.isMandatory, MethodDecl.grouped, Mark.find?]

theorem group_of_grouped {name group : String} {r : Requirement}
    (h : ofMethod? names naming (.grouped names name group) = some r) :
    r.group = Text.nonBlank group := by
  rw [ofMethod?, Option.map_eq_some_iff] at h
  obtain ⟨mark, hmark, rfl⟩ := h
  simp only [Mark.find?, MethodDecl.grouped, List.find?_cons, beq_self_eq_true, Option.some.injEq]
    at hmark
  subst hmark
  simp only [MethodDecl.grouped]
  cases naming.property? name <;> rfl

/-! ### Requirements by method name -/

/-- Method names stand in the order in which they are first marked. -/
theorem keys_byMethod (methods : List MethodDecl) :
    (byMethod names naming methods).keys =
      ((methods.filter (·.isMandatory names)).map MethodDecl.name).eraseDups := by
  rw [byMethod, OrderedMap.keys_firstOfEach]
  congr 1
  induction methods with
  | nil => rfl
  | cons m rest ih =>
    have hmarked := isSome_ofMethod? names naming m
    cases hm : ofMethod? names naming m with
    | none =>
      rw [hm, Option.isSome_none] at hmarked
      simpa [hm, ← hmarked] using ih
    | some r =>
      rw [hm, Option.isSome_some] at hmarked
      simpa [hm, ← hmarked] using ih

/-- The first marked method of a name makes its requirement. -/
theorem get?_byMethod (methods : List MethodDecl) (name : String) :
    (byMethod names naming methods).get? name =
      (methods.find? fun m => m.isMandatory names && m.name == name).bind
        (ofMethod? names naming) := by
  have hsame : (fun m : MethodDecl => ((ofMethod? names naming m).map fun r => (m.name, r)).any
      fun e => e.1 == name) = fun m => m.isMandatory names && m.name == name := by
    funext m
    rw [← isSome_ofMethod? names naming m]
    cases ofMethod? names naming m <;> rfl
  rw [byMethod, OrderedMap.get?_firstOfEach, List.find?_filterMap, hsame]
  cases methods.find? fun m => m.isMandatory names && m.name == name with
  | none => rfl
  | some m => cases h : ofMethod? names naming m <;> simp [h]

/-- A requirement is made by a marked method of its name. -/
theorem exists_of_get?_byMethod {methods : List MethodDecl} {name : String} {r : Requirement}
    (h : (byMethod names naming methods).get? name = some r) :
    ∃ m ∈ methods, m.isMandatory names = true ∧ m.name = name ∧
      ofMethod? names naming m = some r := by
  rw [get?_byMethod] at h
  obtain ⟨m, hm, hr⟩ := Option.bind_eq_some_iff.mp h
  have hp := List.find?_some hm
  rw [Bool.and_eq_true, beq_iff_eq] at hp
  exact ⟨m, List.mem_of_find?_eq_some hm, hp.1, hp.2, hr⟩

/-- A name with a marked method has a requirement. -/
theorem get?_byMethod_isSome (methods : List MethodDecl) (name : String) :
    ((byMethod names naming methods).get? name).isSome ↔
      ∃ m ∈ methods, m.isMandatory names = true ∧ m.name = name := by
  constructor
  · intro h
    obtain ⟨r, hr⟩ := Option.isSome_iff_exists.mp h
    obtain ⟨m, hm, hmarked, hname, -⟩ := exists_of_get?_byMethod names naming hr
    exact ⟨m, hm, hmarked, hname⟩
  · intro h
    obtain ⟨m, hm, hmarked, rfl⟩ := h
    rw [get?_byMethod]
    cases hfind : methods.find? fun x => x.isMandatory names && x.name == m.name with
    | none =>
      have := List.find?_eq_none.mp hfind m hm
      simp [hmarked] at this
    | some x =>
      have hp := List.find?_some hfind
      rw [Option.bind_some, isSome_ofMethod?]
      exact (Bool.and_eq_true_iff.mp hp).1

theorem mem_ofMethods_iff (methods : List MethodDecl) (r : Requirement) :
    r ∈ ofMethods names naming methods ↔
      ∃ name, (byMethod names naming methods).get? name = some r := by
  simp [ofMethods, OrderedMap.values, OrderedMap.get?_eq_some_iff]

end Requirement

/-! ### Groups -/

namespace Groups

theorem keys_ofRequirements (requirements : List Requirement) :
    (ofRequirements requirements).keys = (requirements.map Requirement.key).eraseDups :=
  OrderedMap.keys_foldl_alter Requirement.key (fun r members => members.getD [] ++ [r])
    requirements (∅ : Groups)

/-- A group is read back as the requirements with its key. -/
theorem get?_ofRequirements (requirements : List Requirement) (key : String)
    (h : key ∈ (ofRequirements requirements).keys) :
    (ofRequirements requirements).get? key = some (requirements.filter fun r => r.key == key) := by
  have hgathered : ∀ (l : List Requirement) (members : List Requirement),
      l.foldl (fun old r => some (Option.getD old [] ++ [r])) (some members) =
        some (members ++ l) := by
    intro l
    induction l with
    | nil => simp
    | cons r rest ih => intro members; simp [ih]
  have hread : (ofRequirements requirements).get? key =
      (requirements.filter fun r => r.key == key).foldl
        (fun old r => some (Option.getD old [] ++ [r])) none :=
    OrderedMap.get?_foldl_alter Requirement.key (fun r members => members.getD [] ++ [r])
      requirements (∅ : Groups) key
  rw [hread]
  cases hmembers : requirements.filter fun r => r.key == key with
  | nil =>
    rw [keys_ofRequirements, List.mem_eraseDups, List.mem_map] at h
    obtain ⟨r, hr, hkey⟩ := h
    have : r ∈ requirements.filter fun r => r.key == key :=
      List.mem_filter.mpr ⟨hr, by simpa using hkey⟩
    rw [hmembers] at this
    cases this
  | cons r rest => simpa using hgathered rest [r]

theorem entries_ofRequirements (requirements : List Requirement) :
    (ofRequirements requirements).entries =
      (requirements.map Requirement.key).eraseDups.map fun key =>
        (key, requirements.filter fun r => r.key == key) := by
  rw [← keys_ofRequirements]
  exact OrderedMap.entries_eq_map_keys _ _ (get?_ofRequirements requirements)

/-- A requirement stands in the group of its key. -/
theorem exists_group (requirements : List Requirement) {r : Requirement} (h : r ∈ requirements) :
    ∃ g ∈ (ofRequirements requirements).entries, g.1 = r.key ∧ r ∈ g.2 := by
  rw [entries_ofRequirements]
  refine ⟨_, List.mem_map_of_mem (List.mem_eraseDups.mpr (List.mem_map_of_mem h)), rfl, ?_⟩
  simpa using h

theorem ne_nil_of_mem_entries (requirements : List Requirement) {g : String × List Requirement}
    (hg : g ∈ (ofRequirements requirements).entries) : g.2 ≠ [] := by
  rw [entries_ofRequirements, List.mem_map] at hg
  obtain ⟨key, hkey, rfl⟩ := hg
  obtain ⟨r, hr, hrkey⟩ := List.mem_map.mp (List.mem_eraseDups.mp hkey)
  exact List.ne_nil_of_mem (List.mem_filter.mpr ⟨hr, beq_iff_eq.mpr hrkey⟩)

/-- The members of a group are requirements with its key. -/
theorem mem_of_mem_group (requirements : List Requirement) {g : String × List Requirement}
    (hg : g ∈ (ofRequirements requirements).entries) {r : Requirement} (hr : r ∈ g.2) :
    r ∈ requirements ∧ r.key = g.1 := by
  rw [entries_ofRequirements, List.mem_map] at hg
  obtain ⟨key, -, rfl⟩ := hg
  simpa using hr

end Groups

/-- The members of the groups are the requirements of the method names. -/
theorem Detector.mem_discover_iff (d : Detector) (methods : List MethodDecl) (r : Requirement) :
    (∃ g ∈ (d.discover methods).entries, r ∈ g.2) ↔
      ∃ name, (Requirement.byMethod d.names d.naming methods).get? name = some r := by
  rw [← Requirement.mem_ofMethods_iff]
  constructor
  · intro h
    obtain ⟨g, hg, hr⟩ := h
    exact (Groups.mem_of_mem_group _ hg hr).1
  · intro hr
    obtain ⟨g, hg, -, hmem⟩ := Groups.exists_group _ hr
    exact ⟨g, hg, hmem⟩

theorem Detector.entries_discover (d : Detector) (methods : List MethodDecl) :
    (d.discover methods).entries =
      ((Requirement.ofMethods d.names d.naming methods).map Requirement.key).eraseDups.map
        fun key => (key, (Requirement.ofMethods d.names d.naming methods).filter
          fun r => r.key == key) :=
  Groups.entries_ofRequirements _

end BuilderLint
