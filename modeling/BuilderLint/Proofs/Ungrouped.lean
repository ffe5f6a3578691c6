import BuilderLint.Proofs.Reporting
import Mathlib.Tactic.ByContra

/-! Requirements without a group.

The key of such a requirement is its own name, and any other requirement can have that
key as well: one whose group is called so, or one without a group that a function and a
setter have in common. The requirement stands alone in its group exactly when no other
method makes one with that key. Even then another method may require the same name, and
its uses go to the group that comes first (`own_group_iff`). -/
namespace BuilderLint

/-- A method with the mandatory mark, in no group. -/
def MethodDecl.ungrouped (names : MarkNames) (name : String) : MethodDecl where
  name := name
  marks := [{ name := names.mandatory }]

/-! ### One value of its kind in a map -/

/-- The value under a key is the only one of its kind exactly when no other key holds one. -/
theorem OrderedMap.filter_values_eq_singleton_iff {β : Type} (m : OrderedMap β) (p : β → Bool)
    {key : String} {v : β} (hv : m.get? key = some v) (hp : p v = true) :
    m.values.filter p = [v] ↔ ∀ k w, m.get? k = some w → p w = true → k = key := by
  -- what else is kept of the values stands on one side of the entry or the other
  obtain ⟨before, after, hsplit⟩ := List.append_of_mem ((m.get?_eq_some_iff key v).mp hv)
  have hvalues : m.values.filter p =
      (before.map Prod.snd).filter p ++ v :: (after.map Prod.snd).filter p := by
    simp [values, hsplit, hp]
  have hnone : ∀ l : List (String × β),
      (l.map Prod.snd).filter p = [] ↔ ∀ e ∈ l, ¬p e.2 = true := by
    intro l
    rw [List.filter_map, List.map_eq_nil_iff, List.filter_eq_nil_iff]
    rfl
  have hsingle : m.values.filter p = [v] ↔ ∀ e ∈ before ++ after, ¬p e.2 = true := by
    rw [hvalues, List.forall_mem_append, ← hnone, ← hnone]
    simp [List.append_eq_cons_iff]
  rw [hsingle]
  constructor
  · intro h k w hw hpw
    have hmem := (m.get?_eq_some_iff k w).mp hw
    rw [hsplit, List.mem_append, List.mem_cons] at hmem
    rcases hmem with hmem | heq | hmem
    · exact absurd hpw (h _ (List.mem_append_left _ hmem))
    · exact congrArg Prod.fst heq
    · exact absurd hpw (h _ (List.mem_append_right _ hmem))
  · intro h e he hpe
    have hdistinct := m.distinct
    rw [hsplit, List.map_append, List.map_cons, List.nodup_middle, List.nodup_cons,
      ← List.map_append] at hdistinct
    have hentry : e ∈ m.entries := by
      rw [hsplit]
      rcases List.mem_append.mp he with he | he <;> simp [he]
    have hkey := h e.1 e.2 ((m.get?_eq_some_iff e.1 e.2).mpr hentry) hpe
    exact hdistinct.1 (List.mem_map.mpr ⟨e, he, hkey⟩)

/-! ### Groups of one requirement -/

namespace Detector
variable (d : Detector) (methods : List MethodDecl)

/-- The requirement that a method name makes on a class with these methods. -/
def required? (m : String) : Option Requirement :=
  (Requirement.byMethod d.names d.naming methods).get? m

/-- The requirement of the method name has a group of its own. -/
structure OwnGroup (m : String) (r : Requirement) : Prop where
  /-- The group of its name holds the requirement and no other. -/
  alone : (r.name, [r]) ∈ (d.discover methods).entries
  /-- No other method name is grouped there. -/
  one_method : ∀ m' r', d.required? methods m' = some r' → r'.key = r.name → m' = m
  /-- It is not met by what other methods require. -/
  unmet_by_others : ∀ body : List Statement,
    (∀ s ∈ body, ∃ m' r', m' ≠ m ∧ d.required? methods m' = some r' ∧ s.Uses r'.name) →
      (r.name, [r]) ∈ d.reported body methods

section
variable {methods} {m : String} {r : Requirement}

/-- A requirement is grouped with all that have its key. -/
theorem mem_entries_discover (hr : d.required? methods m = some r) :
    (r.key, (Requirement.ofMethods d.names d.naming methods).filter fun x => x.key == r.key) ∈
      (d.discover methods).entries := by
  have hmem := (Requirement.mem_ofMethods_iff d.names d.naming methods r).mpr ⟨m, hr⟩
  rw [entries_discover]
  exact List.mem_map_of_mem (List.mem_eraseDups.mpr (List.mem_map_of_mem hmem))

theorem filter_key_eq_singleton_iff (hr : d.required? methods m = some r) :
    ((Requirement.ofMethods d.names d.naming methods).filter fun x => x.key == r.key) = [r] ↔
      ∀ m' r', d.required? methods m' = some r' → r'.key = r.key → m' = m := by
  refine (OrderedMap.filter_values_eq_singleton_iff _ _ hr (beq_self_eq_true r.key)).trans ?_
  simp only [beq_iff_eq]
  rfl

/-- **Groups of their own.** A requirement without a group stands in the group of its name, with all
requirements that have this key. It stands there alone exactly when no other method makes a
requirement with that key. It has the group for its own, and no uses of what others require meet it,
exactly when besides no other makes one with its name, unless an earlier group has a member of that
name, which then takes all the uses. -/
theorem own_group_iff (hr : d.required? methods m = some r) (hgroup : r.group = none) :
    ∃ before members after,
      (d.discover methods).entries = before ++ (r.name, members) :: after ∧
      (members = (Requirement.ofMethods d.names d.naming methods).filter fun x =>
        x.key == r.name) ∧ r ∈ members ∧
      (members = [r] ↔ ∀ m' r', d.required? methods m' = some r' → r'.key = r.name → m' = m) ∧
      (d.OwnGroup methods m r ↔ ∀ m' r', m' ≠ m → d.required? methods m' = some r' →
        r'.key ≠ r.name ∧ (r'.name = r.name → ∃ e ∈ before, ∃ x ∈ e.2, x.name = r.name)) := by
  have hkey : r.key = r.name := by rw [Requirement.key, hgroup, Option.getD_none]
  have hentry := d.mem_entries_discover hr
  have hsingle := d.filter_key_eq_singleton_iff hr
  rw [hkey] at hentry hsingle
  obtain ⟨before, after, hsplit⟩ := List.append_of_mem hentry
  refine ⟨before, _, after, hsplit, rfl, ?_, hsingle, ?_, ?_⟩
  · have hmem := (Requirement.mem_ofMethods_iff d.names d.naming methods r).mpr ⟨m, hr⟩
    exact List.mem_filter.mpr ⟨hmem, beq_iff_eq.mpr hkey⟩
  · intro h m' r' hne hr'
    refine ⟨fun heq => hne (h.one_method m' r' hr' heq), fun hname => ?_⟩
    -- a body that sets the common name leaves the group unmet
    have hreported := h.unmet_by_others [.assign r.name] fun s hs =>
      ⟨m', r', hne, hr', by rw [List.mem_singleton.mp hs, hname]; exact .assignment r.name⟩
    rw [hsingle.mpr h.one_method] at hsplit
    rw [d.mem_reported_iff _ methods hsplit] at hreported
    exact hreported r (List.mem_singleton.mpr rfl)
      ⟨_, List.mem_singleton.mpr rfl, .assignment r.name⟩
  · intro h
    have hone : ∀ m' r', d.required? methods m' = some r' → r'.key = r.name → m' = m := by
      intro m' r' hr' heq
      by_contra hne
      exact (h m' r' hne hr').1 heq
    rw [hsingle.mpr hone] at hsplit
    refine ⟨by simp [hsplit], hone, fun body hbody => ?_⟩
    rw [d.mem_reported_iff _ methods hsplit]
    intro x hx hused
    obtain rfl := List.mem_singleton.mp hx
    obtain ⟨s, hs, huse⟩ := hused
    obtain ⟨m', r', hne, hr', huse'⟩ := hbody s hs
    exact (h m' r' hne hr').2 (huse'.eq huse)

/-- One method in no group, and one in a group of another name. -/
def distinctKeys : List MethodDecl :=
  [.ungrouped (.ofPackage defaultPackage) "setTimeout",
    .grouped (.ofPackage defaultPackage) "setRetries" "limits"]

theorem own_group_distinctKeys :
    let d : Detector := ⟨.ofPackage defaultPackage, .bean, .error⟩
    let r : Requirement := ⟨"timeout", .property, none, none⟩
    d.required? distinctKeys "setTimeout" = some r ∧ r.group = none ∧
      d.OwnGroup distinctKeys "setTimeout" r := by
  intro d r
  have hr : d.required? distinctKeys "setTimeout" = some r := by decide
  refine ⟨hr, rfl, ?_⟩
  obtain ⟨before, members, after, -, -, -, -, hown⟩ := d.own_group_iff hr rfl
  refine hown.mpr fun m' r' hne hr' => ?_
  have hentries : (Requirement.byMethod d.names d.naming distinctKeys).entries =
      [("setTimeout", r), ("setRetries", ⟨"retries", .property, some "limits", none⟩)] := by decide
  have hmem := (OrderedMap.get?_eq_some_iff _ m' r').mp hr'
  simp only [hentries, List.mem_cons, List.not_mem_nil, or_false, Prod.mk.injEq] at hmem
  rcases hmem with ⟨rfl, -⟩ | ⟨-, rfl⟩
  · exact absurd rfl hne
  · exact ⟨by decide, fun h => absurd h (by decide)⟩

end

/-- A method in no group, and another in a group that is called like the property it sets. -/
def takenKey : List MethodDecl :=
  [.ungrouped (.ofPackage defaultPackage) "setTimeout",
    .grouped (.ofPackage defaultPackage) "setRetries" "timeout"]

/-- What is set for the other method meets the requirement without a group. -/
theorem not_own_group :
    ¬∀ (d : Detector) (methods : List MethodDecl) (m : String) (r : Requirement),
      d.required? methods m = some r → r.group = none → d.OwnGroup methods m r := by
  intro hlaw
  let d : Detector := ⟨.ofPackage defaultPackage, .bean, .error⟩
  let timeout : Requirement := ⟨"timeout", .property, none, none⟩
  let retries : Requirement := ⟨"retries", .property, some "timeout", none⟩
  have htimeout : d.required? takenKey "setTimeout" = some timeout := by decide
  have hretries : d.required? takenKey "setRetries" = some retries := by decide
  have hnone : d.reported [.assign "retries"] takenKey = [] := by decide
  have hunmet := (hlaw d takenKey "setTimeout" timeout htimeout rfl).unmet_by_others
    [.assign "retries"] fun s hs => ⟨"setRetries", retries, by decide, hretries, by
      rw [List.mem_singleton.mp hs]
      exact .assignment "retries"⟩
  rw [hnone] at hunmet
  cases hunmet

end Detector
end BuilderLint
