import BuilderLint.Outcome
import Mathlib.Data.List.Basic
import Mathlib.Data.Prod.Lex
import Mathlib.Data.String.Basic

/-! Sorting by a key.

A sorted list is known by its elements key by key (`eq_of_keys`), and a stable sort
keeps the elements of each key in their order (`filter_key_byKey`). Together these
say how sorting goes with taking parts of a list, with filtering and with appending.

Diagnostics are sorted by their place: the file, then the line, then the column. -/
namespace BuilderLint

namespace Sorting
variable {α κ : Type} [LinearOrder κ] (key : α → κ)

/-- Sorted by the key; elements with the same key keep their order. -/
def byKey (l : List α) : List α := l.mergeSort fun a b => key a ≤ key b

def Ascending (l : List α) : Prop := l.Pairwise fun a b => key a ≤ key b

theorem byKey_trans (a b c : α) (hab : decide (key a ≤ key b) = true)
    (hbc : decide (key b ≤ key c) = true) : decide (key a ≤ key c) = true := by
  rw [decide_eq_true_iff] at hab hbc ⊢
  exact hab.trans hbc

theorem byKey_total (a b : α) : (decide (key a ≤ key b) || decide (key b ≤ key a)) = true := by
  rw [Bool.or_eq_true, decide_eq_true_iff, decide_eq_true_iff]
  exact le_total _ _

theorem byKey_perm (l : List α) : (byKey key l).Perm l := List.mergeSort_perm l _

theorem ascending_byKey (l : List α) : Ascending key (byKey key l) :=
  (List.pairwise_mergeSort (byKey_trans key) (byKey_total key) l).imp of_decide_eq_true

/-- Elements with the same key keep their order. -/
theorem filter_key_byKey (l : List α) (k : κ) :
    ((byKey key l).filter fun a => key a = k) = l.filter fun a => key a = k := by
  have halike : (l.filter fun a => key a = k).Pairwise
      fun a b => decide (key a ≤ key b) = true := by
    refine List.pairwise_of_forall_mem_list fun a ha b hb => ?_
    rw [List.mem_filter, decide_eq_true_iff] at ha hb
    rw [decide_eq_true_iff, ha.2, hb.2]
  have hkept : (l.filter fun a => key a = k).Sublist (byKey key l) :=
    List.sublist_mergeSort (byKey_trans key) (byKey_total key) halike List.filter_sublist
  have hsub := hkept.filter fun a => key a = k
  rw [List.filter_filter] at hsub
  simp only [Bool.and_self] at hsub
  exact (hsub.eq_of_length ((byKey_perm key l).filter _).length_eq.symm).symm

theorem Ascending.head_le {key : α → κ} {a x : α} {l : List α} (h : Ascending key (a :: l))
    (hx : x ∈ a :: l) : key a ≤ key x := by
  rcases List.mem_cons.mp hx with rfl | hx
  · exact le_rfl
  · exact List.rel_of_pairwise_cons h hx

/-- Sorted lists are parts of one another when their elements are, key by key. -/
theorem sublist_of_keys {l' l : List α} (h' : Ascending key l') (h : Ascending key l)
    (hkeys : ∀ k, (l'.filter fun a => key a = k).Sublist (l.filter fun a => key a = k)) :
    l'.Sublist l := by
  induction l generalizing l' with
  | nil =>
    cases l' with
    | nil => exact List.Sublist.slnil
    | cons a rest => simpa using hkeys (key a)
  | cons b l ih =>
    cases l' with
    | nil => exact List.nil_sublist _
    | cons a rest =>
      have hothers : ∀ k, key b ≠ k →
          ((a :: rest).filter fun x => key x = k).Sublist (l.filter fun x => key x = k) := by
        intro k hk
        have := hkeys k
        rwa [List.filter_cons_of_neg (a := b) (by simpa using hk)] at this
      have hhead := hkeys (key a)
      by_cases hab : key a = key b
      · rw [List.filter_cons_of_pos (by simp), List.filter_cons_of_pos (by simpa using hab.symm)]
          at hhead
        cases hhead with
        | cons _ hskip =>
          refine (ih h' h.of_cons fun k => ?_).cons b
          by_cases hk : key b = k
          · rw [← hk, ← hab, List.filter_cons_of_pos (by simp)]
            exact hskip
          · exact hothers k hk
        | cons_cons _ hrest =>
          refine (ih h'.of_cons h.of_cons fun k => ?_).cons_cons b
          by_cases hk : key b = k
          · rw [← hk]
            exact hrest
          · have := hothers k hk
            rwa [List.filter_cons_of_neg (by simpa using hk)] at this
      · -- `a` stands somewhere behind `b`, so nothing with the key of `b` is in the part
        have ha : a ∈ b :: l :=
          (List.mem_filter.mp (hhead.subset (List.mem_filter.mpr (by simp)))).1
        refine (ih h' h.of_cons fun k => ?_).cons b
        by_cases hk : key b = k
        · have hnone : ((a :: rest).filter fun x => key x = k) = [] := by
            refine List.filter_eq_nil_iff.mpr fun x hx hxk => ?_
            have hax := h'.head_le hx
            rw [of_decide_eq_true hxk, ← hk] at hax
            exact hab (le_antisymm hax (h.head_le ha))
          rw [hnone]
          exact List.nil_sublist _
        · exact hothers k hk

/-- A sorted list is known by its elements key by key. -/
theorem eq_of_keys {l' l : List α} (h' : Ascending key l') (h : Ascending key l)
    (hkeys : ∀ k, (l'.filter fun a => key a = k) = l.filter fun a => key a = k) : l' = l :=
  (sublist_of_keys key h' h fun k => hkeys k ▸ List.Sublist.refl _).antisymm
    (sublist_of_keys key h h' fun k => hkeys k ▸ List.Sublist.refl _)

theorem byKey_congr {l' l : List α}
    (hkeys : ∀ k, (l'.filter fun a => key a = k) = l.filter fun a => key a = k) :
    byKey key l' = byKey key l := by
  refine eq_of_keys key (ascending_byKey key l') (ascending_byKey key l) fun k => ?_
  rw [filter_key_byKey, filter_key_byKey, hkeys]

theorem sublist_byKey {l' l : List α} (h : l'.Sublist l) :
    (byKey key l').Sublist (byKey key l) := by
  refine sublist_of_keys key (ascending_byKey key l') (ascending_byKey key l) fun k => ?_
  rw [filter_key_byKey, filter_key_byKey]
  exact h.filter _

theorem filter_byKey (p : α → Bool) (l : List α) :
    (byKey key l).filter p = byKey key (l.filter p) := by
  refine eq_of_keys key ((ascending_byKey key l).filter p) (ascending_byKey key _) fun k => ?_
  rw [filter_key_byKey, List.filter_comm, filter_key_byKey, List.filter_comm]

/-- Sorting parts first makes no difference. -/
theorem byKey_append (front back : List α) :
    byKey key (byKey key front ++ byKey key back) = byKey key (front ++ back) := by
  refine byKey_congr key fun k => ?_
  rw [List.filter_append, List.filter_append, filter_key_byKey, filter_key_byKey]

end Sorting

/-! ### Diagnostics -/

open Sorting

namespace Diagnostic

/-- What diagnostics are sorted by: the file, then the line, then the column. -/
def place (d : Diagnostic) : String ×ₗ ℕ ×ₗ ℕ :=
  toLex (d.file, toLex (d.span.startLine.toNat, d.span.startCol.toNat))

theorem notAfter_eq : notAfter = fun a b => decide (a.place ≤ b.place) := by
  funext a b
  rw [Bool.eq_iff_iff, decide_eq_true_iff, place, place, Prod.Lex.toLex_le_toLex,
    Prod.Lex.toLex_le_toLex]
  simp [notAfter, UInt64.lt_iff_toNat_lt, UInt64.le_iff_toNat_le, ← UInt64.toNat_inj]

end Diagnostic

theorem Outcome.sort_eq (o : Outcome) :
    o.sort = { o with
      diagnostics := byKey Diagnostic.place o.diagnostics
      suppressed := byKey Diagnostic.place o.suppressed } := by
  rw [sort, Diagnostic.notAfter_eq]
  rfl

end BuilderLint
