import BuilderLint.Proofs.Comparing
import Mathlib.Data.List.Flatten
import Mathlib.Data.List.Perm.Basic

/-! What suppressing does to a run.

A checked lambda adds all it emits to one side: to the suppressed diagnostics when its
list covers the issue, else to the diagnostics (`emittedTo`). So other lists move whole
lambdas from one side to the other. Both sides taken together stay as they are, longer
lists take away from the diagnostics and add to the suppressed ones, and what a
suppressed lambda's body holds is not seen among the diagnostics
(`run_of_resuppressed`). -/
namespace BuilderLint
open Sorting
open Document (loaded)

namespace Lambda

/-- An entry of the lambda's list is the issue's id, or says "all" in capital or small letters. -/
def Covered (l : Lambda) : Prop :=
  ∃ entry ∈ l.suppress,
    entry = Issue.mandatory.id ∨ entry.toList.map Char.toLower = "all".toList

theorem isSuppressed_iff (l : Lambda) :
    isSuppressed l.suppress Issue.mandatory.id = true ↔ l.Covered := by
  have hall : suppressAll.toList.map Char.toLower = "all".toList := by decide
  simp [isSuppressed, sameIgnoringCase, Covered, hall]

instance (l : Lambda) : Decidable l.Covered := decidable_of_iff _ l.isSuppressed_iff

/-- The lambdas differ in the lists of what they suppress only. -/
def Resuppressed (l l' : Lambda) : Prop := l' = { l with suppress := l'.suppress }

theorem Resuppressed.same {l l' : Lambda} (h : l.Resuppressed l') :
    l'.file = l.file ∧ l'.receiver = l.receiver := by
  unfold Resuppressed at h
  rw [h]
  exact ⟨rfl, rfl⟩

/-- The lambdas differ in these lists only, and the second list has all entries of the first. -/
def SuppressesMore (l l' : Lambda) : Prop := l.Resuppressed l' ∧ l.suppress ⊆ l'.suppress

theorem SuppressesMore.covered {l l' : Lambda} (h : l.SuppressesMore l') (hl : l.Covered) :
    l'.Covered := by
  obtain ⟨entry, hmem, hcovers⟩ := hl
  exact ⟨entry, h.2 hmem, hcovers⟩

/-- The lambdas are the same, or are suppressed both and differ in their bodies only. -/
inductive SameUnlessCovered (l : Lambda) : Lambda → Prop where
  | same : SameUnlessCovered l l
  | covered (h : l.Covered) (body : List Statement) :
    SameUnlessCovered l { l with statements := body }

theorem SameUnlessCovered.same_file {l l' : Lambda} (h : l.SameUnlessCovered l') :
    l'.file = l.file ∧ l'.receiver = l.receiver := by
  cases h <;> exact ⟨rfl, rfl⟩

end Lambda

namespace Checker
variable (c : Checker)

/-! ### The side a lambda is on -/

/-- What a checked lambda adds to the suppressed diagnostics, or to the others: all or nothing. -/
def emittedTo (suppressed : Bool) (classes : List ClassDecl) (fallback : String) (l : Lambda) :
    List Diagnostic :=
  match suppressed with
  | false => if l.Covered then [] else c.emitted classes fallback l
  | true => if l.Covered then c.emitted classes fallback l else []

section
variable {l : Lambda} (suppressed : Bool) (classes : List ClassDecl) (fallback : String)

theorem emittedTo_of_covered (h : l.Covered) :
    c.emittedTo suppressed classes fallback l =
      if suppressed then c.emitted classes fallback l else [] := by
  cases suppressed <;> simp [emittedTo, h]

theorem emittedTo_of_not_covered (h : ¬l.Covered) :
    c.emittedTo suppressed classes fallback l =
      if suppressed then [] else c.emitted classes fallback l := by
  cases suppressed <;> simp [emittedTo, h]

end

/-- Nothing is lost between the two sides, and nothing is on both. -/
theorem emittedTo_append (classes : List ClassDecl) (fallback : String) (l : Lambda) :
    c.emittedTo false classes fallback l ++ c.emittedTo true classes fallback l =
      c.emitted classes fallback l := by
  by_cases h : l.Covered
  · simp [c.emittedTo_of_covered _ _ _ h]
  · simp [c.emittedTo_of_not_covered _ _ _ h]

theorem found_eq (suppressed : Bool) (e : String × Document) :
    c.found suppressed e = (c.checked e).flatMap (c.emittedTo suppressed e.2.classes e.1) := by
  unfold found
  induction c.checked e with
  | nil => rfl
  | cons l rest ih =>
    rw [List.flatMap_cons, ← ih, List.filter_cons]
    by_cases h : l.Covered
    · rw [c.emittedTo_of_covered _ _ _ h, l.isSuppressed_iff.mpr h]
      cases suppressed <;> simp
    · rw [c.emittedTo_of_not_covered _ _ _ h,
        Bool.eq_false_iff.mpr fun hsup => h (l.isSuppressed_iff.mp hsup)]
      cases suppressed <;> simp

/-- The diagnostics of one lambda have one place, and discovery order is all the order they have. -/
theorem emitted_sublist_byKey {classes : List ClassDecl} {fallback : String} {l : Lambda}
    {all : List Diagnostic} (h : (c.emitted classes fallback l).Sublist all) :
    (c.emitted classes fallback l).Sublist (byKey Diagnostic.place all) := by
  have hplace : ∀ x ∈ c.emitted classes fallback l, ∀ y ∈ c.emitted classes fallback l,
      decide (x.place ≤ y.place) = true := by
    intro x hx y hy
    obtain ⟨g, -, rfl⟩ := List.mem_map.mp hx
    obtain ⟨g', -, rfl⟩ := List.mem_map.mp hy
    rw [decide_eq_true_iff]
    exact le_refl (Diagnostic.place (c.detector.diagnostic _ g.1 g.2))
  exact List.sublist_mergeSort (byKey_trans _) (byKey_total _)
    (List.pairwise_of_forall_mem_list hplace) h

/-! ### Both sides of a run -/

section
variable (load : String → Except LoadError Document) (paths : List String)

/-- A run sorts what the checked lambdas add to either side. -/
theorem run_sides :
    (c.run load paths).diagnostics = byKey Diagnostic.place ((loaded load paths).flatMap fun e =>
        (c.checked e).flatMap (c.emittedTo false e.2.classes e.1)) ∧
      (c.run load paths).suppressed = byKey Diagnostic.place ((loaded load paths).flatMap fun e =>
        (c.checked e).flatMap (c.emittedTo true e.2.classes e.1)) := by
  rw [run_eq, funext (c.found_eq false), funext (c.found_eq true)]
  exact ⟨rfl, rfl⟩

/-- Taken together, the two sides are all that the checked lambdas emit. -/
theorem run_perm_emitted :
    ((c.run load paths).diagnostics ++ (c.run load paths).suppressed).Perm
      ((loaded load paths).flatMap fun e => (c.checked e).flatMap (c.emitted e.2.classes e.1)) := by
  obtain ⟨hdiagnostics, hsuppressed⟩ := c.run_sides load paths
  rw [hdiagnostics, hsuppressed]
  refine ((byKey_perm _ _).append (byKey_perm _ _)).trans ?_
  refine (List.flatMap_append_perm ..).trans (List.Perm.flatMap_left _ fun e _ => ?_)
  refine (List.flatMap_append_perm ..).trans (List.Perm.of_eq ?_)
  exact congrArg (List.flatMap · (c.checked e)) (funext (c.emittedTo_append e.2.classes e.1))

end

/-! ### Other lists -/

theorem emitted_of_resuppressed {l l' : Lambda} (h : l.Resuppressed l')
    (classes : List ClassDecl) (fallback : String) :
    c.emitted classes fallback l' = c.emitted classes fallback l := by
  unfold Lambda.Resuppressed at h
  rw [h]
  rfl

theorem emittedTo_sublist {l l' : Lambda} (h : l.SuppressesMore l') (classes : List ClassDecl)
    (fallback : String) :
    (c.emittedTo false classes fallback l').Sublist (c.emittedTo false classes fallback l) ∧
      (c.emittedTo true classes fallback l).Sublist (c.emittedTo true classes fallback l') := by
  have hemitted := c.emitted_of_resuppressed h.1 classes fallback
  by_cases hl : l.Covered
  · have hl' := h.covered hl
    simp [c.emittedTo_of_covered _ _ _ hl, c.emittedTo_of_covered _ _ _ hl', hemitted]
  · rw [c.emittedTo_of_not_covered _ _ _ hl, c.emittedTo_of_not_covered _ _ _ hl]
    refine ⟨?_, List.nil_sublist _⟩
    by_cases hl' : l'.Covered
    · rw [c.emittedTo_of_covered _ _ _ hl']
      exact List.nil_sublist _
    · rw [c.emittedTo_of_not_covered _ _ _ hl', hemitted]

/-- The diagnostics do not see what a suppressed lambda's body holds. -/
theorem emittedTo_of_sameUnlessCovered {l l' : Lambda} (h : l.SameUnlessCovered l')
    (classes : List ClassDecl) (fallback : String) :
    c.emittedTo false classes fallback l' = c.emittedTo false classes fallback l := by
  cases h with
  | same => rfl
  | covered hl body =>
    have hl' : Lambda.Covered { l with statements := body } := hl
    rw [c.emittedTo_of_covered _ _ _ hl, c.emittedTo_of_covered _ _ _ hl']
    rfl

section
variable {load load' : String → Except LoadError Document} {paths : List String}
  {R : Lambda → Lambda → Prop}

/-- What related lambdas add in turn, part of one another, is part of one another in all. -/
theorem flatMap_checked_sublist
    (hR : ∀ l l', R l l' → l'.file = l.file ∧ l'.receiver = l.receiver)
    {f : List ClassDecl → String → Lambda → List Diagnostic}
    (hf : ∀ l l', R l l' → ∀ classes fallback, (f classes fallback l').Sublist (f classes fallback l))
    (h : ∀ path ∈ paths, LoadAlike R (load path) (load' path)) :
    ((loaded load' paths).flatMap fun e => (c.checked e).flatMap (f e.2.classes e.1)).Sublist
      ((loaded load paths).flatMap fun e => (c.checked e).flatMap (f e.2.classes e.1)) := by
  refine flatMap_sublist_of_forall₂ (Document.forall₂_loaded h) fun e e' he => ?_
  rw [he.1, he.2.1]
  exact flatMap_sublist_of_forall₂ (c.checked_paired hR he) fun l l' hl => hf l l' hl _ _

theorem flatMap_checked_congr
    (hR : ∀ l l', R l l' → l'.file = l.file ∧ l'.receiver = l.receiver)
    {f : List ClassDecl → String → Lambda → List Diagnostic}
    (hf : ∀ l l', R l l' → ∀ classes fallback, f classes fallback l' = f classes fallback l)
    (h : ∀ path ∈ paths, LoadAlike R (load path) (load' path)) :
    ((loaded load' paths).flatMap fun e => (c.checked e).flatMap (f e.2.classes e.1)) =
      (loaded load paths).flatMap fun e => (c.checked e).flatMap (f e.2.classes e.1) := by
  apply List.Sublist.antisymm
  · exact c.flatMap_checked_sublist hR
      (fun l l' hl classes fallback => hf l l' hl classes fallback ▸ List.Sublist.refl _) h
  · refine c.flatMap_checked_sublist (fun l' l hl => ?_)
      (fun l' l hl classes fallback => hf l l' hl classes fallback ▸ List.Sublist.refl _)
      fun path hpath => (h path hpath).flip
    exact ⟨(hR l l' hl).1.symm, (hR l l' hl).2.symm⟩

/-- With other lists, the run emits the same in all. -/
theorem run_perm_of_resuppressed
    (h : ∀ path ∈ paths, LoadAlike Lambda.Resuppressed (load path) (load' path)) :
    ((c.run load' paths).diagnostics ++ (c.run load' paths).suppressed).Perm
      ((c.run load paths).diagnostics ++ (c.run load paths).suppressed) := by
  refine (c.run_perm_emitted load' paths).trans ?_
  rw [c.flatMap_checked_congr (fun _ _ => Lambda.Resuppressed.same)
    (fun _ _ hl => c.emitted_of_resuppressed hl) h]
  exact (c.run_perm_emitted load paths).symm

/-- Longer lists take away from the diagnostics and add to the suppressed ones. -/
theorem run_sublist_of_suppressesMore
    (h : ∀ path ∈ paths, LoadAlike Lambda.SuppressesMore (load path) (load' path)) :
    (c.run load' paths).diagnostics.Sublist (c.run load paths).diagnostics ∧
      (c.run load paths).suppressed.Sublist (c.run load' paths).suppressed := by
  obtain ⟨hdiagnostics, hsuppressed⟩ := c.run_sides load paths
  obtain ⟨hdiagnostics', hsuppressed'⟩ := c.run_sides load' paths
  rw [hdiagnostics, hsuppressed, hdiagnostics', hsuppressed']
  constructor
  · apply sublist_byKey
    exact c.flatMap_checked_sublist (fun _ _ hl => hl.1.same)
      (fun _ _ hl classes fallback => (c.emittedTo_sublist hl classes fallback).1) h
  · apply sublist_byKey
    refine c.flatMap_checked_sublist (fun l' l hl => ?_)
      (fun _ _ hl classes fallback => (c.emittedTo_sublist hl classes fallback).2)
      fun path hpath => (h path hpath).flip
    exact ⟨hl.1.same.1.symm, hl.1.same.2.symm⟩

theorem run_of_sameUnlessCovered
    (h : ∀ path ∈ paths, LoadAlike Lambda.SameUnlessCovered (load path) (load' path)) :
    (c.run load' paths).diagnostics = (c.run load paths).diagnostics := by
  rw [(c.run_sides load paths).1, (c.run_sides load' paths).1]
  exact congrArg _ (c.flatMap_checked_congr (fun _ _ => Lambda.SameUnlessCovered.same_file)
    (fun _ _ hl => c.emittedTo_of_sameUnlessCovered hl) h)

end

/-! ### Suppression moves whole lambdas -/

/-- Where the diagnostics of a checked lambda are in the outcome of a run. -/
structure OnOneSide (e : String × Document) (l : Lambda) (o : Outcome) : Prop where
  /-- The groups that the lambda misses are reported in the order of discovery. -/
  in_order : c.emitted e.2.classes e.1 l =
    ((c.detector.groupsOf e.2.classes l.receiver).entries.filter fun g =>
      ∀ s ∈ l.statements, ¬(c.detector.groupsOf e.2.classes l.receiver).Resolves s g).map fun g =>
        c.detector.diagnostic ⟨l.fileOr e.1, l.span, l.statements⟩ g.1 g.2
  /-- All of them are suppressed, or none is. -/
  all_or_none : c.checkLambda e.2.classes e.1 l =
    { diagnostics := if l.Covered then [] else c.emitted e.2.classes e.1 l
      suppressed := if l.Covered then c.emitted e.2.classes e.1 l else []
      visited := 1 }
  /-- The run keeps them and their order. -/
  kept : (c.emitted e.2.classes e.1 l).Sublist (if l.Covered then o.suppressed else o.diagnostics)

theorem onOneSide {load : String → Except LoadError Document} {paths : List String}
    {e : String × Document} (he : e ∈ loaded load paths) {l : Lambda} (hl : l ∈ c.checked e) :
    c.OnOneSide e l (c.run load paths) where
  in_order := c.emitted_eq e.2.classes e.1 l
  all_or_none := by
    have hchecked : l.Checked c e.2.classes e.1 := by
      unfold checked at hl
      split at hl
      · exact of_decide_eq_true (List.mem_filter.mp hl).2
      · cases hl
    rw [c.checkLambda_of_checked _ _ _ hchecked]
    simp only [l.isSuppressed_iff]
  kept := by
    have hside : ∀ suppressed, (c.emittedTo suppressed e.2.classes e.1 l).Sublist
        ((loaded load paths).flatMap fun e =>
          (c.checked e).flatMap (c.emittedTo suppressed e.2.classes e.1)) := by
      intro suppressed
      have hlambda := (List.singleton_sublist.mpr hl).flatMap
        (c.emittedTo suppressed e.2.classes e.1)
      have hentry := (List.singleton_sublist.mpr he).flatMap fun e =>
        (c.checked e).flatMap (c.emittedTo suppressed e.2.classes e.1)
      rw [List.flatMap_singleton] at hlambda hentry
      exact hlambda.trans hentry
    obtain ⟨hdiagnostics, hsuppressed⟩ := c.run_sides load paths
    by_cases hcovered : l.Covered
    · have := hside true
      rw [c.emittedTo_of_covered _ _ _ hcovered, if_pos rfl] at this
      rw [if_pos hcovered, hsuppressed]
      exact c.emitted_sublist_byKey this
    · have := hside false
      rw [c.emittedTo_of_not_covered _ _ _ hcovered, if_neg Bool.false_ne_true] at this
      rw [if_neg hcovered, hdiagnostics]
      exact c.emitted_sublist_byKey this

/-- **Suppression only moves diagnostics.** The diagnostics of a checked lambda are all on one side
of the outcome, in the order of discovery: they are suppressed exactly when an entry of its list is
the issue's id, or "all" in capital or small letters. Take two runs over the same paths. If the
documents differ in these lists only, the runs look at as much, and find the same diagnostics as
often when both sides are taken together. If the lists only grow, the diagnostics of the second run
are a part of those of the first, in the same order, and the suppressed ones of the first a part of
those of the second. If the documents differ in the bodies of suppressed lambdas only, the
diagnostics are the same, and so is whether there are errors among them. -/
theorem run_of_resuppressed (load load' : String → Except LoadError Document)
    (paths : List String) :
    (∀ e ∈ loaded load paths, ∀ l ∈ c.checked e, c.OnOneSide e l (c.run load paths)) ∧
    ((c.run load paths).diagnostics = byKey Diagnostic.place ((loaded load paths).flatMap fun e =>
        (c.checked e).flatMap fun l => if l.Covered then [] else c.emitted e.2.classes e.1 l) ∧
      (c.run load paths).suppressed = byKey Diagnostic.place ((loaded load paths).flatMap fun e =>
        (c.checked e).flatMap fun l => if l.Covered then c.emitted e.2.classes e.1 l else [])) ∧
    ((∀ path ∈ paths, LoadAlike Lambda.Resuppressed (load path) (load' path)) →
      (c.run load' paths).scanned = (c.run load paths).scanned ∧
        (c.run load' paths).visited = (c.run load paths).visited ∧
        ((c.run load' paths).diagnostics ++ (c.run load' paths).suppressed).Perm
          ((c.run load paths).diagnostics ++ (c.run load paths).suppressed)) ∧
    ((∀ path ∈ paths, LoadAlike Lambda.SuppressesMore (load path) (load' path)) →
      (c.run load' paths).diagnostics.Sublist (c.run load paths).diagnostics ∧
        (c.run load paths).suppressed.Sublist (c.run load' paths).suppressed) ∧
    ((∀ path ∈ paths, LoadAlike Lambda.SameUnlessCovered (load path) (load' path)) →
      (c.run load' paths).diagnostics = (c.run load paths).diagnostics ∧
        (c.run load' paths).hasErrors = (c.run load paths).hasErrors) := by
  refine ⟨fun e he l hl => c.onOneSide he hl, c.run_sides load paths, fun h => ?_,
    c.run_sublist_of_suppressesMore, fun h => ?_⟩
  · obtain ⟨hscanned, hvisited⟩ := c.run_counts (fun _ _ => Lambda.Resuppressed.same) h
    exact ⟨hscanned, hvisited, c.run_perm_of_resuppressed h⟩
  · have hdiagnostics := c.run_of_sameUnlessCovered h
    refine ⟨hdiagnostics, ?_⟩
    unfold Outcome.hasErrors
    rw [hdiagnostics]

/-- Two lambdas on roots: the first with a list and a body, the second suppressing another issue. -/
def listing (suppress : List String) (body : List Statement) (_path : String) :
    Except LoadError Document :=
  .ok { threeReceivers with
    lambdas := [{ receiver := "Tls", suppress, statements := body },
      { receiver := "Server", suppress := ["Other"] }] }

/-- The first lambda goes over to the suppressed side, and can then have any body. -/
theorem run_of_resuppressed_firstOfTwo :
    let c : Checker := ⟨⟨.ofPackage defaultPackage, .bean, .error⟩, ⟨[]⟩, true⟩
    let active := listing [] []
    let suppressed := listing ["ALL"] []
    let set := listing ["ALL"] [.assign "retries"]
    (c.run active ["a.yaml"]).diagnostics.length = 2 ∧
      (c.run suppressed ["a.yaml"]).diagnostics.length = 1 ∧
      ((c.run suppressed ["a.yaml"]).diagnostics ++ (c.run suppressed ["a.yaml"]).suppressed).Perm
        ((c.run active ["a.yaml"]).diagnostics ++ (c.run active ["a.yaml"]).suppressed) ∧
      (c.run suppressed ["a.yaml"]).diagnostics.Sublist (c.run active ["a.yaml"]).diagnostics ∧
      (c.run set ["a.yaml"]).hasErrors = (c.run suppressed ["a.yaml"]).hasErrors ∧
      ∃ e ∈ loaded suppressed ["a.yaml"], ∃ l ∈ c.checked e, l.Covered ∧
        c.OnOneSide e l (c.run suppressed ["a.yaml"]) := by
  intro c active suppressed set
  have hmore : ∀ path ∈ ["a.yaml"],
      LoadAlike Lambda.SuppressesMore (active path) (suppressed path) := fun path _ =>
    .loaded _ (.cons ⟨rfl, List.nil_subset _⟩ (.cons ⟨rfl, List.Subset.refl _⟩ .nil))
  have hother : ∀ path ∈ ["a.yaml"],
      LoadAlike Lambda.Resuppressed (active path) (suppressed path) := fun path hpath =>
    (hmore path hpath).imp fun _ _ => And.left
  have hbody : ∀ path ∈ ["a.yaml"],
      LoadAlike Lambda.SameUnlessCovered (suppressed path) (set path) := fun path _ =>
    .loaded _ (.cons (.covered (by decide) _) (.cons .same .nil))
  obtain ⟨-, -, hperm, hsublist, -⟩ := run_of_resuppressed c active suppressed ["a.yaml"]
  obtain ⟨hside, -, -, -, herrors⟩ := run_of_resuppressed c suppressed set ["a.yaml"]
  have hlambda : { receiver := "Tls", suppress := ["ALL"] } ∈ c.checked
      ("a.yaml", { threeReceivers with
        lambdas := [{ receiver := "Tls", suppress := ["ALL"] },
          { receiver := "Server", suppress := ["Other"] }] }) := by
    have hchecked : Lambda.Checked c threeReceivers.classes "a.yaml"
        { receiver := "Tls", suppress := ["ALL"] } := by decide
    exact List.mem_filter.mpr ⟨List.mem_cons_self .., decide_eq_true hchecked⟩
  have htwo : (c.run active ["a.yaml"]).diagnostics.length = 2 := by
    rw [run_eq]
    exact (byKey_perm _ _).length_eq.trans (by decide)
  have hone : (c.run suppressed ["a.yaml"]).diagnostics.length = 1 := by
    rw [run_eq]
    exact (byKey_perm _ _).length_eq.trans (by decide)
  exact ⟨htwo, hone, (hperm hother).2.2, (hsublist hmore).1, (herrors hbody).2,
    _, List.mem_cons_self .., _, hlambda, by decide, hside _ (List.mem_cons_self ..) _ hlambda⟩

end Checker
end BuilderLint
