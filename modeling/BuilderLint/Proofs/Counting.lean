import BuilderLint.Tally
import Mathlib.Algebra.Ring.Nat

/-! What is counted.

A statement counts towards one group at most (`keyFor?`), and the count of a group
is the number of statements that count towards it (`count_ofStatements`). Groups
that nothing counts towards come last in a tally, in the order of discovery, so
the missing groups keep that order (`missing_ofStatements`). -/
namespace BuilderLint

/-- The group a statement counts towards: the first with a member of the name it sets or calls. -/
def Groups.keyFor? (groups : Groups) (s : Statement) : Option String :=
  s.name?.bind groups.keyOf?

namespace Tally

/-- How often a group is counted. -/
def count (t : Tally) (key : String) : Nat := (t.get? key).getD 0

/-! ### Adding up -/

theorem count_add (t : Tally) (key k : String) (n : Nat) :
    (t.add key n).count k = t.count k + if key = k then n else 0 := by
  by_cases h : key = k
  · simp [count, add, OrderedMap.get?_alter, h]
  · simp [count, add, OrderedMap.get?_alter, h, Ne.symm h]

variable {α : Type} (key : α → String) (n : α → Nat)

theorem keys_foldl_add (l : List α) (t : Tally) :
    (l.foldl (fun t x => t.add (key x) (n x)) t).keys = (t.keys ++ l.map key).eraseDups :=
  OrderedMap.keys_foldl_alter key (fun x old => old.getD 0 + n x) l t

theorem count_foldl_add (l : List α) (t : Tally) (k : String) :
    (l.foldl (fun t x => t.add (key x) (n x)) t).count k =
      t.count k + ((l.filter fun x => key x == k).map n).sum := by
  induction l generalizing t with
  | nil => simp
  | cons x rest ih =>
    rw [List.foldl_cons, ih, count_add, List.filter_cons]
    by_cases h : key x = k <;> simp [h, Nat.add_assoc]

/-- The entries under a key add up to its count. -/
theorem sum_entries (t : Tally) (k : String) :
    ((t.entries.filter fun e => e.1 == k).map Prod.snd).sum = t.count k := by
  rw [OrderedMap.filter_entries, count]
  cases t.get? k <;> simp

/-! ### Counting names -/

theorem keys_ofNames (groups : Groups) (names : List String) :
    (ofNames groups names).keys = (names.filterMap groups.keyOf?).eraseDups := by
  have h := keys_foldl_add id (fun _ => 1) (names.filterMap groups.keyOf?) ∅
  rw [List.map_id, OrderedMap.keys_empty, List.nil_append] at h
  exact h

theorem count_ofNames (groups : Groups) (names : List String) (k : String) :
    (ofNames groups names).count k = (names.filterMap groups.keyOf?).count k := by
  have h := count_foldl_add id (fun _ => 1) (names.filterMap groups.keyOf?) ∅ k
  rw [List.map_const', List.sum_replicate_nat, Nat.mul_one] at h
  rw [List.count_eq_length_filter, ofNames]
  exact h.trans (Nat.zero_add _)

/-! ### Counting statements -/

/-- A statement is an assignment or a call, and counts as what it is. -/
theorem count_keyFor? (groups : Groups) (body : List Statement) (k : String) :
    (body.filterMap groups.keyFor?).count k =
      ((body.filterMap Statement.assigned?).filterMap groups.keyOf?).count k +
        ((body.filterMap Statement.called?).filterMap groups.keyOf?).count k := by
  induction body with
  | nil => rfl
  | cons s rest ih =>
    cases ha : s.assigned? with
    | none =>
      cases hc : s.called? with
      | none =>
        have hs : groups.keyFor? s = none := by simp [Groups.keyFor?, Statement.name?, ha, hc]
        simpa [List.filterMap_cons, hs, ha, hc] using ih
      | some name =>
        have hs : groups.keyFor? s = groups.keyOf? name := by
          simp [Groups.keyFor?, Statement.name?, ha, hc]
        cases hk : groups.keyOf? name with
        | none => simpa [List.filterMap_cons, hs, ha, hc, hk] using ih
        | some key =>
          simp only [List.filterMap_cons, hs, ha, hc, hk, List.count_cons, ih]
          omega
    | some name =>
      have hc : s.called? = none := by
        cases s with
        | call => cases ha
        | _ => rfl
      have hs : groups.keyFor? s = groups.keyOf? name := by
        simp [Groups.keyFor?, Statement.name?, ha]
      cases hk : groups.keyOf? name with
      | none => simpa [List.filterMap_cons, hs, ha, hc, hk] using ih
      | some key =>
        simp only [List.filterMap_cons, hs, ha, hc, hk, List.count_cons, ih]
        omega

/-- Every group has a count, and it is the number of statements that count towards the group. -/
theorem count_ofStatements (groups : Groups) (body : List Statement) (k : String) :
    (ofStatements groups body).count k = (body.filterMap groups.keyFor?).count k := by
  rw [count_keyFor?, ← count_ofNames, ← count_ofNames]
  have hused := count_foldl_add Prod.fst Prod.snd
    (ofNames groups (body.filterMap Statement.called?)).entries
    (ofNames groups (body.filterMap Statement.assigned?)) k
  rw [sum_entries] at hused
  rw [← hused]
  have hrest := count_foldl_add id (fun _ => 0) groups.keys
    ((ofNames groups (body.filterMap Statement.called?)).entries.foldl
      (fun t e => t.add e.1 e.2) (ofNames groups (body.filterMap Statement.assigned?))) k
  rw [List.map_const', List.sum_replicate_nat, Nat.mul_zero, Nat.add_zero] at hrest
  exact hrest

/-- The groups with a count: the assigned ones, then the called ones, then all others. -/
theorem keys_ofStatements (groups : Groups) (body : List Statement) :
    (ofStatements groups body).keys =
      ((ofNames groups (body.filterMap Statement.assigned?)).keys ++
        (ofNames groups (body.filterMap Statement.called?)).keys ++ groups.keys).eraseDups := by
  have hused := keys_foldl_add Prod.fst Prod.snd
    (ofNames groups (body.filterMap Statement.called?)).entries
    (ofNames groups (body.filterMap Statement.assigned?))
  have hrest := keys_foldl_add id (fun _ => 0) groups.keys
    ((ofNames groups (body.filterMap Statement.called?)).entries.foldl
      (fun t e => t.add e.1 e.2) (ofNames groups (body.filterMap Statement.assigned?)))
  rw [List.map_id, hused, OrderedMap.eraseDups_append_eraseDups] at hrest
  exact hrest

/-! ### Missing groups -/

theorem missing_eq_filter_keys (t : Tally) : t.missing = t.keys.filter fun k => t.count k == 0 := by
  rw [missing, OrderedMap.keys, List.filter_map]
  congr 1
  refine List.filter_congr fun e he => ?_
  have hread := (t.get?_eq_some_iff e.1 e.2).mpr he
  simp [count, hread]

/-- A group that stands in front of the unused ones is counted. -/
theorem count_pos_of_used (groups : Groups) (body : List Statement) {k : String}
    (h : k ∈ (ofNames groups (body.filterMap Statement.assigned?)).keys ++
      (ofNames groups (body.filterMap Statement.called?)).keys) :
    0 < (ofStatements groups body).count k := by
  rw [count_ofStatements, count_keyFor?]
  rw [List.mem_append, keys_ofNames, keys_ofNames, List.mem_eraseDups, List.mem_eraseDups] at h
  rcases h with h | h
  · have := List.count_pos_iff.mpr h
    omega
  · have := List.count_pos_iff.mpr h
    omega

/-- The missing groups are those that no statement counts towards, in the order of discovery. -/
theorem missing_ofStatements (groups : Groups) (body : List Statement) :
    (ofStatements groups body).missing =
      groups.keys.filter fun k => body.all fun s => groups.keyFor? s != some k := by
  have hzero : ∀ k, ((ofStatements groups body).count k == 0) =
      body.all fun s => groups.keyFor? s != some k := by
    intro k
    rw [count_ofStatements, Bool.eq_iff_iff, beq_iff_eq, List.count_eq_zero]
    simp [List.mem_filterMap]
  have hused : ∀ k, k ∈ (ofNames groups (body.filterMap Statement.assigned?)).keys ++
      (ofNames groups (body.filterMap Statement.called?)).keys →
      ¬((ofStatements groups body).count k == 0) = true := by
    intro k hk h
    have := count_pos_of_used groups body hk
    rw [beq_iff_eq.mp h] at this
    exact Nat.lt_irrefl 0 this
  -- the used groups all drop out, and the others stand as they were discovered
  rw [missing_eq_filter_keys, keys_ofStatements, List.eraseDups_append, List.filter_append,
    List.filter_eq_nil_iff.mpr fun k hk => hused k (List.mem_eraseDups.mp hk), List.nil_append,
    List.removeAll, OrderedMap.eraseDups_of_nodup (List.Pairwise.filter _ groups.nodup_keys),
    List.filter_filter]
  refine List.filter_congr fun k _ => ?_
  rw [← hzero k]
  cases h : (ofStatements groups body).count k == 0 with
  | false => rfl
  | true => simpa using fun hk => hused k hk h

end Tally
end BuilderLint
