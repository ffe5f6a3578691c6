import BuilderLint.Proofs.Grouping
import BuilderLint.Proofs.Reporting

/-! What a tally adds up to.

A tally has one count for each group, whatever names the groups share: the number of
statements that resolve to the group. No statement is lost and none counts twice, so
the counts add up to the statements that use the name of any member, and a body that is
split in two has the counts of both parts. The groups that are assigned to come first,
then the other ones that are called, then the rest (`ofStatements_conserves`). -/
namespace BuilderLint

instance (s : Statement) (name : String) : Decidable (s.Uses name) :=
  decidable_of_iff _ (s.uses_iff name).symm

namespace Groups
variable (groups : Groups)

/-! ### Statements and their groups -/

/-- The groups that the statements resolve to, each where a statement first does. -/
def metBy (statements : List Statement) : List String :=
  (statements.flatMap fun s =>
    (groups.entries.filter fun g => groups.Resolves s g).map Prod.fst).eraseDups

theorem mem_keys_of_keyFor? {s : Statement} {key : String} (h : groups.keyFor? s = some key) :
    key ∈ groups.keys := by
  obtain ⟨name, -, hname⟩ := Option.bind_eq_some_iff.mp h
  obtain ⟨g, hg, rfl⟩ := Option.map_eq_some_iff.mp hname
  exact List.mem_map_of_mem (List.mem_of_find?_eq_some hg)

/-- A statement resolves to one group at most. -/
theorem filter_resolves (s : Statement) :
    (groups.entries.filter fun g => groups.Resolves s g).map Prod.fst =
      (groups.keyFor? s).toList := by
  have hkeys : (groups.entries.filter fun g => groups.Resolves s g).map Prod.fst =
      groups.keys.filter fun k => groups.keyFor? s == some k := by
    rw [OrderedMap.keys, List.filter_map]
    refine congrArg _ (List.filter_congr fun g hg => ?_)
    rw [Bool.eq_iff_iff]
    simp [resolves_iff, hg]
  rw [hkeys]
  cases h : groups.keyFor? s with
  | none => simp
  | some key =>
    have hkey : (groups.keys.filter fun k => some key == some k) = groups.keys.filter (· == key) :=
      List.filter_congr fun k _ => by simp [eq_comm]
    have hone := List.count_eq_one_of_mem groups.nodup_keys (groups.mem_keys_of_keyFor? h)
    rw [hkey, List.filter_beq, hone]
    rfl

theorem metBy_eq (statements : List Statement) :
    groups.metBy statements = (statements.filterMap groups.keyFor?).eraseDups := by
  rw [metBy, List.filterMap_eq_flatMap_toList]
  exact congrArg _ (List.flatMap_congr fun s _ => groups.filter_resolves s)

theorem nodup_metBy (statements : List Statement) : (groups.metBy statements).Nodup :=
  OrderedMap.nodup_eraseDups _

theorem mem_keys_of_mem_metBy {statements : List Statement} {key : String}
    (h : key ∈ groups.metBy statements) : key ∈ groups.keys := by
  rw [metBy_eq, List.mem_eraseDups] at h
  obtain ⟨s, -, hs⟩ := List.mem_filterMap.mp h
  exact groups.mem_keys_of_keyFor? hs

/-- A statement counts towards a group when it uses the name of a member of any group. -/
theorem isSome_keyFor?_iff (s : Statement) :
    (groups.keyFor? s).isSome ↔ ∃ g ∈ groups.entries, ∃ r ∈ g.2, s.Uses r.name := by
  have hname : ∀ name, (groups.keyOf? name).isSome ↔
      ∃ g ∈ groups.entries, ∃ r ∈ g.2, r.name = name := by
    intro name
    rw [keyOf?, Option.isSome_map, List.find?_isSome]
    simp
  simp only [keyFor?, Statement.uses_iff]
  cases h : s.name? with
  | none => simp
  | some name =>
    rw [Option.bind_some, hname]
    simp only [Option.some.injEq, eq_comm]

end Groups

namespace Tally
variable (groups : Groups) (body : List Statement)

/-! ### The order of a tally -/

theorem eraseDups_append_of_nodup (a : List String) {b : List String} (h : b.Nodup) :
    (a ++ b).eraseDups = a.eraseDups ++ b.filter fun k => k ∉ a := by
  have hremoved : b.removeAll a = b.filter fun k => k ∉ a :=
    List.filter_congr fun k _ => by simp [List.elem_eq_contains]
  rw [List.eraseDups_append, hremoved, OrderedMap.eraseDups_of_nodup (h.filter _)]

/-- The names that are assigned to stand for the groups that the assignments resolve to. -/
theorem keys_ofNames_assigned :
    (ofNames groups (body.filterMap Statement.assigned?)).keys =
      groups.metBy (body.filter fun s => s.assigned?.isSome) := by
  rw [keys_ofNames, Groups.metBy_eq, List.filterMap_filterMap, List.filterMap_filter]
  refine congrArg _ (List.filterMap_congr fun s _ => ?_)
  cases h : s.assigned? <;> simp [Groups.keyFor?, Statement.name?, h]

/-- The names that are called stand for the groups that the calls resolve to. -/
theorem keys_ofNames_called :
    (ofNames groups (body.filterMap Statement.called?)).keys =
      groups.metBy (body.filter fun s => s.called?.isSome) := by
  rw [keys_ofNames, Groups.metBy_eq, List.filterMap_filterMap, List.filterMap_filter]
  refine congrArg _ (List.filterMap_congr fun s _ => ?_)
  cases s with
  | call name => rfl
  | _ => rfl

theorem keys_ofStatements_eq :
    let assigned := groups.metBy (body.filter fun s => s.assigned?.isSome)
    let called := groups.metBy (body.filter fun s => s.called?.isSome)
    (ofStatements groups body).keys =
      assigned ++ called.filter (fun k => k ∉ assigned) ++
        groups.keys.filter (fun k => k ∉ assigned ∧ k ∉ called) := by
  intro assigned called
  rw [keys_ofStatements, keys_ofNames_assigned, keys_ofNames_called]
  rw [eraseDups_append_of_nodup _ groups.nodup_keys,
    eraseDups_append_of_nodup _ (groups.nodup_metBy _),
    OrderedMap.eraseDups_of_nodup (groups.nodup_metBy _)]
  exact congrArg _ (List.filter_congr fun k _ => by simp [assigned, called])

/-- The keys of a tally are those of the groups. -/
theorem keys_ofStatements_perm : (ofStatements groups body).keys.Perm groups.keys := by
  rw [List.perm_ext_iff_of_nodup (OrderedMap.nodup_keys _) groups.nodup_keys]
  intro k
  rw [keys_ofStatements, keys_ofNames_assigned, keys_ofNames_called, List.mem_eraseDups,
    List.mem_append, List.mem_append]
  constructor
  · intro h
    rcases h with (h | h) | h
    · exact groups.mem_keys_of_mem_metBy h
    · exact groups.mem_keys_of_mem_metBy h
    · exact h
  · exact .inr

/-! ### The counts of a tally -/

theorem count_eq_countP {g : String × List Requirement} (hg : g ∈ groups.entries) :
    (ofStatements groups body).count g.1 = body.countP fun s => groups.Resolves s g := by
  rw [count_ofStatements, List.count_filterMap]
  refine List.countP_congr fun s _ => ?_
  simp [Groups.resolves_iff, hg]

theorem entries_eq (t : Tally) : t.entries = t.keys.map fun k => (k, t.count k) := by
  refine t.entries_eq_map_keys t.count fun k hk => ?_
  obtain ⟨e, he, rfl⟩ := List.mem_map.mp hk
  rw [count, (t.get?_eq_some_iff e.1 e.2).mpr he]
  rfl

/-- A tally is the groups, each with the number of statements that resolve to it. -/
theorem entries_ofStatements_perm :
    (ofStatements groups body).entries.Perm
      (groups.entries.map fun g => (g.1, body.countP fun s => groups.Resolves s g)) := by
  have hgroups : (groups.entries.map fun g => (g.1, body.countP fun s => groups.Resolves s g)) =
      groups.keys.map fun k => (k, (ofStatements groups body).count k) := by
    rw [OrderedMap.keys, List.map_map]
    exact List.map_congr_left fun g hg => Prod.ext rfl (count_eq_countP groups body hg).symm
  rw [hgroups, entries_eq]
  exact (keys_ofStatements_perm groups body).map _

/-- The counts add up to the number of statements that count towards any group. -/
theorem sum_values_ofStatements :
    (ofStatements groups body).values.sum = body.countP fun s => (groups.keyFor? s).isSome := by
  have hcounts : (ofStatements groups body).values =
      (ofStatements groups body).keys.map fun k =>
        ((body.filterMap groups.keyFor?).filter fun key => id key == k).length := by
    rw [OrderedMap.values, entries_eq, List.map_map]
    refine List.map_congr_left fun k _ => ?_
    show (ofStatements groups body).count k = _
    rw [count_ofStatements, List.count_eq_length_filter]
    rfl
  -- what the statements count towards, taken apart by groups
  have hparts := flatMap_filter_key_perm id (OrderedMap.nodup_keys (ofStatements groups body))
    (l := body.filterMap groups.keyFor?) fun key hkey => by
      obtain ⟨s, -, hs⟩ := List.mem_filterMap.mp hkey
      exact (keys_ofStatements_perm groups body).mem_iff.mpr (groups.mem_keys_of_keyFor? hs)
  rw [hcounts, ← List.length_flatMap, hparts.length_eq, List.length_filterMap_eq_countP]

theorem count_ofStatements_append (more : List Statement) (key : String) :
    (ofStatements groups (body ++ more)).count key =
      (ofStatements groups body).count key + (ofStatements groups more).count key := by
  rw [count_ofStatements, count_ofStatements, count_ofStatements, List.filterMap_append,
    List.count_append]

/-- **Every use is counted once.** A tally has the groups, each once, with the number of statements
that resolve to the group: that use the name of one of its members, and of no member of an earlier
group. The counts add up to the number of statements that use the name of any member. The counts of
two bodies in a row are the sums of their counts. First come the groups that are assigned to, by the
first assignment, then the others that are called, by the first call, then the rest in the order of
the groups. -/
theorem ofStatements_conserves (groups : Groups) (body : List Statement) :
    (ofStatements groups body).entries.Perm
      (groups.entries.map fun g => (g.1, body.countP fun s => groups.Resolves s g)) ∧
    (ofStatements groups body).values.sum =
      body.countP (fun s => ∃ g ∈ groups.entries, ∃ r ∈ g.2, s.Uses r.name) ∧
    (∀ more key, (ofStatements groups (body ++ more)).count key =
      (ofStatements groups body).count key + (ofStatements groups more).count key) ∧
    let assigned := groups.metBy (body.filter fun s => s.assigned?.isSome)
    let called := groups.metBy (body.filter fun s => s.called?.isSome)
    (ofStatements groups body).keys =
      assigned ++ called.filter (fun k => k ∉ assigned) ++
        groups.keys.filter (fun k => k ∉ assigned ∧ k ∉ called) := by
  refine ⟨entries_ofStatements_perm groups body, ?_, count_ofStatements_append groups body,
    keys_ofStatements_eq groups body⟩
  rw [sum_values_ofStatements]
  exact List.countP_congr fun s _ => by simp [groups.isSome_keyFor?_iff s]

end Tally
end BuilderLint
