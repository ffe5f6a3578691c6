import BuilderLint.Proofs.Runs
import Mathlib.Data.List.Forall2

/-! Comparing two runs over the same paths.

Two ways of loading are compared path by path: both fail, or both give documents with
the same classes whose lambdas are related one by one (`LoadAlike`).

A body that uses more names never has more reported. So when the lambdas differ in
their bodies only, and each uses in the second run what it uses in the first, the
second run finds a part of what the first finds, in the same order
(`run_sublist_of_setsMore`). Bodies that use the same names find the same. -/
namespace BuilderLint
open Sorting
open Document (loaded)

/-! ### What bodies use -/

namespace Statement

/-- A statement in the body sets or calls the name. -/
def UsedIn (name : String) (body : List Statement) : Prop := ∃ s ∈ body, s.Uses name

/-- The statement sets or calls nothing by a bare name. -/
inductive Silent : Statement → Prop where
  | block (label : Option String) (statements : List Statement) : Silent (.block label statements)
  | expression (text : String) : Silent (.assignment (.expression text))
  | other (text : Option String) : Silent (.other text)

/-- The second body is made from the first by putting statements in another order, by repeating
them, by calling what is set, and by adding silent ones; and back. -/
inductive Reworded : List Statement → List Statement → Prop where
  | reordered {body body' : List Statement} (h : body'.Perm body) : Reworded body body'
  | repeated {s : Statement} {body : List Statement} (h : s ∈ body) : Reworded body (s :: body)
  | called (front : List Statement) (name : String) (back : List Statement) :
    Reworded (front ++ .assign name :: back) (front ++ .call name :: back)
  | silent (front back : List Statement) {s : Statement} (h : s.Silent) :
    Reworded (front ++ back) (front ++ s :: back)
  | symm {body body' : List Statement} : Reworded body body' → Reworded body' body
  | trans {a b c : List Statement} : Reworded a b → Reworded b c → Reworded a c

theorem Silent.not_uses {s : Statement} (h : s.Silent) (name : String) : ¬s.Uses name := by
  intro huse
  cases h <;> cases huse

theorem usedIn_insert (name : String) (front : List Statement) (s : Statement)
    (back : List Statement) :
    UsedIn name (front ++ s :: back) ↔ s.Uses name ∨ UsedIn name (front ++ back) := by
  simp only [UsedIn, List.mem_append, List.mem_cons]
  grind

/-- Rewording changes nothing about the names that are used. -/
theorem Reworded.usedIn_iff {body body' : List Statement} (h : Reworded body body')
    (name : String) : UsedIn name body ↔ UsedIn name body' := by
  induction h with
  | reordered hperm => simp only [UsedIn, hperm.mem_iff]
  | repeated hs =>
    unfold UsedIn
    grind
  | called front n back =>
    rw [usedIn_insert, usedIn_insert, uses_iff, uses_iff]
    rfl
  | silent front back hs => rw [usedIn_insert, or_iff_right (hs.not_uses name)]
  | symm _ ih => exact ih.symm
  | trans _ _ ihab ihbc => exact ihab.trans ihbc

end Statement

open Statement (UsedIn Reworded)

namespace Lambda

/-- The lambdas differ in their bodies only, and what the first uses, the second uses. -/
def SetsMore (l l' : Lambda) : Prop :=
  l' = { l with statements := l'.statements } ∧
    ∀ name, UsedIn name l.statements → UsedIn name l'.statements

theorem SetsMore.same {l l' : Lambda} (h : l.SetsMore l') :
    l'.file = l.file ∧ l'.receiver = l.receiver := by
  rw [h.1]
  exact ⟨rfl, rfl⟩

/-- The lambdas differ in their bodies only, and use the same names. -/
def SetsSame (l l' : Lambda) : Prop :=
  l' = { l with statements := l'.statements } ∧
    ∀ name, UsedIn name l.statements ↔ UsedIn name l'.statements

theorem SetsSame.symm {l l' : Lambda} (h : l.SetsSame l') : l'.SetsSame l := by
  obtain ⟨hrest, hbody⟩ := h
  exact ⟨by rw [hrest], fun name => (hbody name).symm⟩

theorem SetsSame.setsMore {l l' : Lambda} (h : l.SetsSame l') : l.SetsMore l' :=
  ⟨h.1, fun name => (h.2 name).mp⟩

/-- The lambdas differ in their bodies only, and only by rewording. -/
def Rewords (l l' : Lambda) : Prop :=
  l' = { l with statements := l'.statements } ∧ Reworded l.statements l'.statements

theorem Rewords.setsSame {l l' : Lambda} (h : l.Rewords l') : l.SetsSame l' :=
  ⟨h.1, h.2.usedIn_iff⟩

end Lambda

/-! ### Documents path by path -/

/-- What two ways of loading give at a path: both fail, or the documents have the same classes and
lambdas that are related one by one. -/
inductive LoadAlike (R : Lambda → Lambda → Prop) :
    Except LoadError Document → Except LoadError Document → Prop where
  | failed (e e' : LoadError) : LoadAlike R (.error e) (.error e')
  | loaded (classes : List ClassDecl) {ls ls' : List Lambda} (h : List.Forall₂ R ls ls') :
    LoadAlike R (.ok ⟨classes, ls⟩) (.ok ⟨classes, ls'⟩)

theorem LoadAlike.imp {R S : Lambda → Lambda → Prop} (h : ∀ l l', R l l' → S l l')
    {x x' : Except LoadError Document} (halike : LoadAlike R x x') : LoadAlike S x x' := by
  cases halike with
  | failed e e' => exact .failed e e'
  | loaded classes hlambdas => exact .loaded classes (hlambdas.imp h)

theorem LoadAlike.flip {R : Lambda → Lambda → Prop} {x x' : Except LoadError Document}
    (halike : LoadAlike R x x') : LoadAlike (fun l' l => R l l') x' x := by
  cases halike with
  | failed e e' => exact .failed e' e
  | loaded classes hlambdas => exact .loaded classes hlambdas.flip

theorem LoadAlike.symm {R : Lambda → Lambda → Prop} (h : ∀ l l', R l l' → R l' l)
    {x x' : Except LoadError Document} (halike : LoadAlike R x x') : LoadAlike R x' x :=
  halike.flip.imp fun l' l => h l l'

/-- Documents at one path, with the same classes and lambdas that are related one by one. -/
def Document.Paired (R : Lambda → Lambda → Prop) (e e' : String × Document) : Prop :=
  e'.1 = e.1 ∧ e'.2.classes = e.2.classes ∧ List.Forall₂ R e.2.lambdas e'.2.lambdas

theorem Document.forall₂_loaded {R : Lambda → Lambda → Prop}
    {load load' : String → Except LoadError Document} {paths : List String}
    (h : ∀ path ∈ paths, LoadAlike R (load path) (load' path)) :
    List.Forall₂ (Paired R) (loaded load paths) (loaded load' paths) := by
  induction paths with
  | nil => exact .nil
  | cons path rest ih =>
    have hrest := ih fun p hp => h p (List.mem_cons_of_mem _ hp)
    have hpath := h path (List.mem_cons_self ..)
    unfold loaded at hrest ⊢
    generalize hx : load path = x, hx' : load' path = x' at hpath
    cases hpath with
    | failed e e' => simpa [List.filterMap_cons, hx, hx', Except.toOption] using hrest
    | loaded classes hlambdas =>
      simp only [List.filterMap_cons, hx, hx', Except.toOption, Option.map_some]
      exact .cons ⟨rfl, rfl, hlambdas⟩ hrest

theorem flatMap_sublist_of_forall₂ {α β : Type} {R : α → α → Prop} {f : α → List β}
    {l l' : List α} (h : List.Forall₂ R l l') (hf : ∀ a a', R a a' → (f a').Sublist (f a)) :
    (l'.flatMap f).Sublist (l.flatMap f) := by
  induction h with
  | nil => exact List.Sublist.slnil
  | cons ha _ ih =>
    rw [List.flatMap_cons, List.flatMap_cons]
    exact (hf _ _ ha).append ih

/-! ### Setting more -/

attribute [ext] Outcome

namespace Checker
variable (c : Checker)

theorem emitted_sublist {l l' : Lambda} (h : l.SetsMore l') (classes : List ClassDecl)
    (fallback : String) :
    (c.emitted classes fallback l').Sublist (c.emitted classes fallback l) := by
  obtain ⟨hrest, huses⟩ := h
  rw [emitted_eq, emitted_eq, hrest]
  refine List.Sublist.map _ (List.monotone_filter_right _ fun g hfree => ?_)
  rw [decide_eq_true_iff] at hfree ⊢
  intro s hs hres
  obtain ⟨name, huse, hfirst⟩ := hres
  obtain ⟨s', hs', huse'⟩ := huses name ⟨s, hs, huse⟩
  exact hfree s' hs' ⟨name, huse', hfirst⟩

/-- Which lambdas are checked depends on their files and receivers only. -/
theorem checked_paired {R : Lambda → Lambda → Prop}
    (hR : ∀ l l', R l l' → l'.file = l.file ∧ l'.receiver = l.receiver)
    {e e' : String × Document} (h : Document.Paired R e e') :
    List.Forall₂ R (c.checked e) (c.checked e') := by
  obtain ⟨hpath, hclasses, hlambdas⟩ := h
  unfold checked
  rw [hpath, hclasses]
  by_cases hon : c.enabled = true
  · rw [if_pos hon, if_pos hon]
    refine List.rel_filter (fun l l' hl => ?_) hlambdas
    obtain ⟨hfile, hreceiver⟩ := hR l l' hl
    have hsame : l'.Checked c e.2.classes e.1 ↔ l.Checked c e.2.classes e.1 := by
      unfold Lambda.Checked Lambda.fileOr
      rw [hfile, hreceiver]
    simp [hsame]
  · rw [if_neg hon, if_neg hon]
    exact .nil

theorem found_sublist (suppressed : Bool) {e e' : String × Document}
    (h : Document.Paired Lambda.SetsMore e e') :
    (c.found suppressed e').Sublist (c.found suppressed e) := by
  have hchecked := c.checked_paired (fun _ _ => Lambda.SetsMore.same) h
  unfold found
  rw [h.1, h.2.1]
  refine flatMap_sublist_of_forall₂ (List.rel_filter (fun l l' hl => ?_) hchecked) fun l l' hl =>
    c.emitted_sublist hl _ _
  rw [hl.1]

section
variable {load load' : String → Except LoadError Document} {paths : List String}

/-- Runs over lambdas with the same files and receivers look at as much. -/
theorem run_counts {R : Lambda → Lambda → Prop}
    (hR : ∀ l l', R l l' → l'.file = l.file ∧ l'.receiver = l.receiver)
    (h : ∀ path ∈ paths, LoadAlike R (load path) (load' path)) :
    (c.run load' paths).scanned = (c.run load paths).scanned ∧
      (c.run load' paths).visited = (c.run load paths).visited := by
  have hloaded := Document.forall₂_loaded h
  have hcounts : ((loaded load' paths).map fun e => (c.checked e).length) =
      (loaded load paths).map fun e => (c.checked e).length := by
    rw [← List.forall₂_eq_eq_eq, List.forall₂_map_left_iff, List.forall₂_map_right_iff]
    exact hloaded.flip.imp fun _ _ he => (c.checked_paired hR he).length_eq.symm
  rw [run_eq, run_eq, hcounts, hloaded.length_eq]
  exact ⟨rfl, rfl⟩

theorem run_of_setsMore
    (h : ∀ path ∈ paths, LoadAlike Lambda.SetsMore (load path) (load' path)) :
    (c.run load' paths).diagnostics.Sublist (c.run load paths).diagnostics ∧
      (c.run load' paths).suppressed.Sublist (c.run load paths).suppressed ∧
      (c.run load' paths).scanned = (c.run load paths).scanned ∧
      (c.run load' paths).visited = (c.run load paths).visited := by
  have hloaded := Document.forall₂_loaded h
  have hfound : ∀ suppressed, ((loaded load' paths).flatMap (c.found suppressed)).Sublist
      ((loaded load paths).flatMap (c.found suppressed)) := fun suppressed =>
    flatMap_sublist_of_forall₂ hloaded fun _ _ he => c.found_sublist suppressed he
  refine ⟨?_, ?_, c.run_counts (fun _ _ => Lambda.SetsMore.same) h⟩
  · rw [run_eq, run_eq]
    exact sublist_byKey _ (hfound false)
  · rw [run_eq, run_eq]
    exact sublist_byKey _ (hfound true)

theorem run_of_setsSame
    (h : ∀ path ∈ paths, LoadAlike Lambda.SetsSame (load path) (load' path)) :
    c.run load' paths = c.run load paths := by
  obtain ⟨hdiagnostics, hsuppressed, hscanned, hvisited⟩ :=
    c.run_of_setsMore fun path hpath => (h path hpath).imp fun _ _ => Lambda.SetsSame.setsMore
  obtain ⟨hdiagnostics', hsuppressed', -, -⟩ :=
    c.run_of_setsMore fun path hpath =>
      ((h path hpath).symm fun _ _ => Lambda.SetsSame.symm).imp fun _ _ => Lambda.SetsSame.setsMore
  exact Outcome.ext (hdiagnostics.antisymm hdiagnostics') (hsuppressed.antisymm hsuppressed')
    hscanned hvisited

end

/-- **Setting more never reports more.** Take two runs over the same paths, in which the documents
differ in the bodies of the lambdas only. If each body uses in the second run all names that it
uses in the first, the second run reports and suppresses a part of what the first does, in the
same order. It visits as many lambdas, and has errors only if the first has. If the bodies use
the same names, nothing changes at all, and so it is when they are only reworded. -/
theorem run_sublist_of_setsMore (load load' : String → Except LoadError Document)
    (paths : List String) :
    ((∀ path ∈ paths, LoadAlike Lambda.SetsMore (load path) (load' path)) →
      (c.run load' paths).diagnostics.Sublist (c.run load paths).diagnostics ∧
        (c.run load' paths).suppressed.Sublist (c.run load paths).suppressed ∧
        (c.run load' paths).visited = (c.run load paths).visited ∧
        ((c.run load' paths).hasErrors = true → (c.run load paths).hasErrors = true)) ∧
    ((∀ path ∈ paths, LoadAlike Lambda.SetsSame (load path) (load' path)) →
      c.run load' paths = c.run load paths) ∧
    ((∀ path ∈ paths, LoadAlike Lambda.Rewords (load path) (load' path)) →
      c.run load' paths = c.run load paths) := by
  refine ⟨fun h => ?_, c.run_of_setsSame, fun h => c.run_of_setsSame fun path hpath =>
    (h path hpath).imp fun _ _ => Lambda.Rewords.setsSame⟩
  obtain ⟨hdiagnostics, hsuppressed, -, hvisited⟩ := c.run_of_setsMore h
  refine ⟨hdiagnostics, hsuppressed, hvisited, fun herrors => ?_⟩
  obtain ⟨x, hx, herror⟩ := List.any_eq_true.mp herrors
  exact List.any_eq_true.mpr ⟨x, hdiagnostics.subset hx, herror⟩

/-- One lambda with a given body, on the receiver that extends a root. -/
def bodyAt (body : List Statement) (_path : String) : Except LoadError Document :=
  .ok { threeReceivers with lambdas := [{ receiver := "Tls", statements := body }] }

/-- Setting the property clears the error, and calling it instead, behind a block, makes no
difference. -/
theorem run_sublist_of_setsMore_retries :
    let c : Checker := ⟨⟨.ofPackage defaultPackage, .bean, .error⟩, ⟨[]⟩, true⟩
    let bare := bodyAt [.other none]
    let set := bodyAt [.other none, .assign "retries"]
    let called := bodyAt [.block none [], .call "retries"]
    (c.run bare ["a.yaml"]).hasErrors = true ∧ (c.run set ["a.yaml"]).hasErrors = false ∧
      (c.run set ["a.yaml"]).diagnostics.Sublist (c.run bare ["a.yaml"]).diagnostics ∧
      (c.run set ["a.yaml"]).visited = (c.run bare ["a.yaml"]).visited ∧
      c.run called ["a.yaml"] = c.run set ["a.yaml"] := by
  intro c bare set called
  have hmore : ∀ path ∈ ["a.yaml"], LoadAlike Lambda.SetsMore (bare path) (set path) := by
    intro path _
    refine .loaded _ (.cons ⟨rfl, fun name huse => ?_⟩ .nil)
    obtain ⟨s, hs, huse⟩ := huse
    exact ⟨s, List.mem_append_left _ hs, huse⟩
  have hreworded : Statement.Reworded [.other none, .assign "retries"]
      [.block none [], .call "retries"] :=
    (Statement.Reworded.called [.other none] "retries" []).trans
      ((Statement.Reworded.silent [] [.call "retries"] (.other none)).symm.trans
        (.silent [] [.call "retries"] (.block none [])))
  have hsame : ∀ path ∈ ["a.yaml"], LoadAlike Lambda.Rewords (set path) (called path) := by
    intro path _
    exact .loaded _ (.cons ⟨rfl, hreworded⟩ .nil)
  obtain ⟨hdiagnostics, -, hvisited, -⟩ := (run_sublist_of_setsMore c bare set ["a.yaml"]).1 hmore
  exact ⟨by decide +kernel, by decide +kernel, hdiagnostics, hvisited,
    (run_sublist_of_setsMore c set called ["a.yaml"]).2.2 hsame⟩

end Checker
end BuilderLint
