import BuilderLint.Proofs.Counting
import BuilderLint.Proofs.Discovery
import Mathlib.Data.List.Nodup

/-! What is reported about one lambda.

A statement resolves to the first group, in the order of discovery, with a member of
the name it uses. The report is that of the discovered groups, in order, without
those that a statement resolves to (`check_eq_unresolved`).

Since a use counts towards one group only, a group whose names all stand in earlier
groups stays reported however it is used. That a group is met by any use of a member
holds of a class exactly when no two of its groups have a name in common
(`met_by_any_member_iff`). -/
namespace BuilderLint

/-! ### Uses and the groups they resolve to -/

/-- The statement sets the name as a bare one, or calls it. -/
inductive Statement.Uses : Statement → String → Prop where
  | assignment (name : String) : Uses (.assignment (.identifier name)) name
  | call (name : String) : Uses (.call name) name

theorem Statement.uses_iff (s : Statement) (name : String) : s.Uses name ↔ s.name? = some name := by
  constructor
  · intro h
    cases h <;> rfl
  · intro h
    match s with
    | .assignment (.identifier n) =>
      cases h
      exact .assignment name
    | .assignment (.expression _) => cases h
    | .call n =>
      cases h
      exact .call name
    | .block .. => cases h
    | .other _ => cases h

/-- A statement uses one name at most. -/
theorem Statement.Uses.eq {s : Statement} {a b : String} (ha : s.Uses a) (hb : s.Uses b) :
    a = b := by
  rw [uses_iff] at ha hb
  rw [ha, Option.some.injEq] at hb
  exact hb

namespace Groups

/-- `g` is the first group, in the order of discovery, with a member of that name. -/
def FirstWith (groups : Groups) (name : String) (g : String × List Requirement) : Prop :=
  ∃ before after, groups.entries = before ++ g :: after ∧ (∃ r ∈ g.2, r.name = name) ∧
    ∀ e ∈ before, ∀ r ∈ e.2, r.name ≠ name

/-- The statement uses a name, and `g` is the first group with a member of that name. -/
def Resolves (groups : Groups) (s : Statement) (g : String × List Requirement) : Prop :=
  ∃ name, s.Uses name ∧ groups.FirstWith name g

theorem firstWith_iff (groups : Groups) (name : String) (g : String × List Requirement) :
    groups.FirstWith name g ↔
      (groups.entries.find? fun e => e.2.any fun r => r.name == name) = some g := by
  rw [List.find?_eq_some_iff_append]
  constructor
  · intro h
    obtain ⟨before, after, hsplit, hmember, hfirst⟩ := h
    exact ⟨by simpa using hmember, before, after, hsplit, by simpa using hfirst⟩
  · intro h
    obtain ⟨hmember, before, after, hsplit, hfirst⟩ := h
    exact ⟨before, after, hsplit, by simpa using hmember, by simpa using hfirst⟩

theorem resolves_iff (groups : Groups) (s : Statement) (g : String × List Requirement) :
    groups.Resolves s g ↔ g ∈ groups.entries ∧ groups.keyFor? s = some g.1 := by
  simp only [Resolves, Statement.uses_iff, firstWith_iff, keyFor?, keyOf?, Option.bind_eq_some_iff,
    Option.map_eq_some_iff]
  constructor
  · intro h
    obtain ⟨name, hname, hfind⟩ := h
    exact ⟨List.mem_of_find?_eq_some hfind, name, hname, g, hfind, rfl⟩
  · intro h
    obtain ⟨hg, name, hname, e, hfind, hkey⟩ := h
    refine ⟨name, hname, hfind.trans (congrArg some ?_)⟩
    have he := List.mem_of_find?_eq_some hfind
    have heg : (groups.entries.find? fun x => x.1 == g.1) = some e := by
      rw [← hkey]
      exact OrderedMap.find?_of_mem groups.distinct he
    rw [OrderedMap.find?_of_mem groups.distinct hg, Option.some.injEq] at heg
    exact heg.symm

instance (groups : Groups) (s : Statement) (g : String × List Requirement) :
    Decidable (groups.Resolves s g) :=
  decidable_of_iff _ (resolves_iff groups s g).symm

end Groups

namespace Detector
variable (d : Detector)

/-! ### The report -/

theorem reported_eq_filter (body : List Statement) (methods : List MethodDecl) :
    d.reported body methods =
      (d.discover methods).entries.filter fun g =>
        ∀ s ∈ body, ¬(d.discover methods).Resolves s g := by
  have hread : ∀ g ∈ (d.discover methods).entries,
      (g.1, ((d.discover methods).get? g.1).getD []) = g := by
    intro g hg
    rw [(OrderedMap.get?_eq_some_iff _ g.1 g.2).mpr hg]
    rfl
  simp only [reported]
  rw [Tally.missing_ofStatements, OrderedMap.keys, List.filter_map, List.map_map]
  refine (List.map_congr_left fun g hg => hread g (List.mem_filter.mp hg).1).trans ?_
  rw [List.map_id']
  refine List.filter_congr fun g hg => ?_
  rw [Bool.eq_iff_iff]
  simp [Groups.resolves_iff, hg]

theorem mem_reported (body : List Statement) (methods : List MethodDecl)
    (g : String × List Requirement) :
    g ∈ d.reported body methods ↔
      g ∈ (d.discover methods).entries ∧ ∀ s ∈ body, ¬(d.discover methods).Resolves s g := by
  rw [reported_eq_filter, List.mem_filter, decide_eq_true_iff]

/-- No group is reported twice. -/
theorem nodup_reported (body : List Statement) (methods : List MethodDecl) :
    (d.reported body methods).Nodup := by
  rw [reported_eq_filter]
  exact (List.Nodup.of_map _ (d.discover methods).distinct).filter _

/-- The report of a lambda: one diagnostic for every discovered group that no statement resolves
to, in the order of discovery. Groups are discovered in the order in which their keys first occur
among the requirements, and hold the requirements with their key in order. -/
theorem check_eq_unresolved (lambda : LambdaBody) (methods : List MethodDecl) :
    d.check lambda methods =
        ((d.discover methods).entries.filter fun g =>
          ∀ s ∈ lambda.statements, ¬(d.discover methods).Resolves s g).map (fun g =>
            { issue := "DSLMandatory"
              severity := d.severity
              file := lambda.file
              span := lambda.span
              message := (g.2.head?.bind (·.message)).getD
                ("\"" ++ g.1 ++ "\" property must be defined")
              fix := some (.alternatives (g.2.map fun r =>
                { label := "Define \"" ++ r.name ++ "\" property"
                  range := lambda.span
                  oldText := "\x7b"
                  newText := "\x7b\n" ++ match r.kind with
                    | .property => r.name ++ " = "
                    | .function => r.name ++ "\x7b\n\x7d"
                  reformat := true })) }) ∧
      (d.discover methods).entries =
        ((Requirement.ofMethods d.names d.naming methods).map Requirement.key).eraseDups.map
          fun key => (key, (Requirement.ofMethods d.names d.naming methods).filter
            fun r => r.key == key) := by
  refine ⟨?_, d.entries_discover methods⟩
  rw [check, reported_eq_filter]
  rfl

/-! ### When any use of a member meets its group -/

/-- A group is missed exactly when every name it is used by stands in an earlier group. -/
theorem mem_reported_iff (body : List Statement) (methods : List MethodDecl)
    {before after : List (String × List Requirement)} {g : String × List Requirement}
    (hsplit : (d.discover methods).entries = before ++ g :: after) :
    g ∈ d.reported body methods ↔
      ∀ r ∈ g.2, (∃ s ∈ body, s.Uses r.name) → ∃ e ∈ before, ∃ r' ∈ e.2, r'.name = r.name := by
  have hg : g ∈ (d.discover methods).entries := by simp [hsplit]
  rw [mem_reported]
  constructor
  · intro hreported r hr hused
    obtain ⟨-, hfree⟩ := hreported
    obtain ⟨s, hs, huse⟩ := hused
    apply Classical.byContradiction
    intro hnone
    refine hfree s hs ⟨r.name, huse, before, after, hsplit, ⟨r, hr, rfl⟩, ?_⟩
    exact fun e he r' hr' heq => hnone ⟨e, he, r', hr', heq⟩
  · refine fun h => ⟨hg, fun s hs hres => ?_⟩
    obtain ⟨name, huse, hfirst⟩ := hres
    obtain ⟨r, hr, rfl⟩ : ∃ r ∈ g.2, r.name = name := by
      obtain ⟨_, _, _, hmember, _⟩ := hfirst
      exact hmember
    obtain ⟨e, he, r', hr', heq⟩ := h r hr ⟨s, hs, huse⟩
    -- the first group with the name stands among the earlier ones, so it is not `g`
    rw [Groups.firstWith_iff, hsplit, List.find?_append] at hfirst
    cases hfind : before.find? fun e => e.2.any fun x => x.name == r.name with
    | none =>
      have := List.find?_eq_none.mp hfind e he
      simp only [List.any_eq_true, beq_iff_eq, not_exists, not_and] at this
      exact this r' hr' heq
    | some x =>
      rw [hfind, Option.some_or, Option.some.injEq] at hfirst
      subst hfirst
      have hnodup := (d.discover methods).distinct
      rw [hsplit, List.map_append, List.map_cons, List.nodup_append] at hnodup
      exact hnodup.2.2 x.1 (List.mem_map_of_mem (List.mem_of_find?_eq_some hfind)) x.1
        (List.mem_cons_self ..) rfl

/-- **When any use of a member meets its group.** A group is reported exactly when each of its
names that the body uses stands in an earlier group as well. So the groups of a class are met by
any use of a member, whatever the body, exactly when no two of them have a name in common. -/
theorem met_by_any_member_iff (methods : List MethodDecl) :
    (∀ before g after, (d.discover methods).entries = before ++ g :: after →
      ∀ body, g ∈ d.reported body methods ↔
        ∀ r ∈ g.2, (∃ s ∈ body, s.Uses r.name) → ∃ e ∈ before, ∃ r' ∈ e.2, r'.name = r.name) ∧
    ((∀ g ∈ (d.discover methods).entries, ∀ body, g ∈ d.reported body methods ↔
        ∀ r ∈ g.2, ∀ s ∈ body, ¬s.Uses r.name) ↔
      (d.discover methods).entries.Pairwise fun e g =>
        ∀ r' ∈ e.2, ∀ r ∈ g.2, r'.name ≠ r.name) := by
  refine ⟨fun before g after hsplit body => d.mem_reported_iff body methods hsplit, ?_, ?_⟩
  · intro hlaw
    refine pairwise_of_splits fun before g after hsplit e he r' hr' r hr heq => ?_
    have hg : g ∈ (d.discover methods).entries := by simp [hsplit]
    -- a body that sets the common name meets the earlier group only
    have hreported : g ∈ d.reported [.assign r.name] methods := by
      rw [d.mem_reported_iff _ methods hsplit]
      intro x _ hused
      obtain ⟨s, hs, huse⟩ := hused
      rw [List.mem_singleton.mp hs] at huse
      have hname : r.name = x.name := Option.some.inj ((Statement.uses_iff _ _).mp huse)
      exact ⟨e, he, r', hr', heq.trans hname⟩
    exact (hlaw g hg _).mp hreported r hr _ (List.mem_singleton.mpr rfl) (.assignment r.name)
  · intro hdistinct g hg body
    obtain ⟨before, after, hsplit⟩ := List.append_of_mem hg
    rw [d.mem_reported_iff body methods hsplit]
    rw [hsplit, List.pairwise_append] at hdistinct
    constructor
    · intro h r hr s hs huse
      obtain ⟨e, he, r', hr', heq⟩ := h r hr ⟨s, hs, huse⟩
      exact hdistinct.2.2 e he g (List.mem_cons_self ..) r' hr' r hr heq
    · intro h r hr hused
      obtain ⟨s, hs, huse⟩ := hused
      exact absurd huse (h r hr s hs)

/-- A setter and a function for the same name, in two groups. -/
def sameName : List MethodDecl :=
  [.grouped (.ofPackage defaultPackage) "setTimeout" "limits",
    .grouped (.ofPackage defaultPackage) "timeout" "retries"]

/-- Setting and calling the only member of a group need not meet it. -/
theorem not_met_by_any_member :
    ¬∀ (d : Detector) (methods : List MethodDecl), ∀ g ∈ (d.discover methods).entries,
      ∀ body, g ∈ d.reported body methods ↔ ∀ r ∈ g.2, ∀ s ∈ body, ¬s.Uses r.name := by
  intro hlaw
  let retries : String × List Requirement :=
    ("retries", [⟨"timeout", .function, some "retries", none⟩])
  have hgroup : retries ∈ ((⟨.ofPackage defaultPackage, .bean, .error⟩ : Detector).discover
      sameName).entries := by decide
  have hreported : retries ∈ (⟨.ofPackage defaultPackage, .bean, .error⟩ : Detector).reported
      [.assign "timeout", .call "timeout"] sameName := by decide
  exact (hlaw _ sameName retries hgroup _).mp hreported _ (List.mem_singleton.mpr rfl) _
    (List.mem_cons_self ..) (.assignment "timeout")

end Detector
end BuilderLint
