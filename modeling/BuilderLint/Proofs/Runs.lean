import BuilderLint.Proofs.Documents
import BuilderLint.Proofs.Sorting

/-! What a run over a list of paths leaves behind.

The paths that cannot be loaded are passed over. What the others find is appended in
the order of the paths, and then sorted (`run_eq`). A sort keeps the order within
each place, so at each place the diagnostics are those of the documents in order, and
the order of the paths matters only where two documents meet (`run_gathers`). -/
namespace BuilderLint
open Sorting

namespace Document
variable (load : String → Except LoadError Document)

/-- The documents at the paths that can be loaded, each with its path. -/
def loaded (paths : List String) : List (String × Document) :=
  paths.filterMap fun path => (load path).toOption.map fun d => (path, d)

theorem loaded_append (front back : List String) :
    loaded load (front ++ back) = loaded load front ++ loaded load back :=
  List.filterMap_append

theorem length_loaded (paths : List String) :
    (loaded load paths).length = paths.countP fun path => (load path).isOk := by
  induction paths with
  | nil => rfl
  | cons path rest ih =>
    cases h : load path with
    | error e => simpa [loaded, h, Except.toOption, Except.isOk, Except.toBool] using ih
    | ok d => simpa [loaded, h, Except.toOption, Except.isOk, Except.toBool] using ih

theorem loaded_of_error {bad : String} (h : (load bad).isOk = false) (front back : List String) :
    loaded load (front ++ bad :: back) = loaded load (front ++ back) := by
  have hnone : loaded load [bad] = [] := by
    rw [← List.length_eq_zero_iff, length_loaded]
    simp [h]
  rw [← List.singleton_append, loaded_append, loaded_append, loaded_append, hnone,
    List.nil_append]

end Document

open Document (loaded)

theorem sum_map_ofNat {α : Type} (f : α → ℕ) (l : List α) :
    (l.map fun a => UInt64.ofNat (f a)).sum = .ofNat (l.map f).sum := by
  induction l with
  | nil => rfl
  | cons a rest ih =>
    rw [List.map_cons, List.sum_cons, ih, List.map_cons, List.sum_cons, UInt64.ofNat_add]

namespace Checker
variable (c : Checker) (load : String → Except LoadError Document)

/-! ### One document -/

/-- The lambdas of a document that are checked; none when the issue is not reported at all. -/
def checked (e : String × Document) : List Lambda :=
  if c.enabled then e.2.lambdas.filter fun l => l.Checked c e.2.classes e.1 else []

/-- What the lambdas of a document emit, one after the other: those whose lists suppress the
issue, or the others. -/
def found (suppressed : Bool) (e : String × Document) : List Diagnostic :=
  ((c.checked e).filter fun l => isSuppressed l.suppress Issue.mandatory.id == suppressed).flatMap
    (c.emitted e.2.classes e.1)

theorem checkDocument_eq (e : String × Document) :
    c.checkDocument e.2 e.1 =
      { diagnostics := c.found false e
        suppressed := c.found true e
        visited := .ofNat (c.checked e).length } := by
  unfold checkDocument found checked
  by_cases h : c.enabled = true
  · simp only [h, if_true, foldl_checkLambda, outcomeOf, beq_true, beq_false]
  · simp only [h]
    rfl

/-- The groups of a lambda are reported in the order of discovery, without those that are used. -/
theorem emitted_eq (classes : List ClassDecl) (fallback : String) (l : Lambda) :
    c.emitted classes fallback l =
      ((c.detector.groupsOf classes l.receiver).entries.filter fun g =>
        ∀ s ∈ l.statements, ¬(c.detector.groupsOf classes l.receiver).Resolves s g).map fun g =>
          c.detector.diagnostic ⟨l.fileOr fallback, l.span, l.statements⟩ g.1 g.2 := by
  rw [emitted, reported, Detector.reported_eq_filter]
  rfl

/-! ### Many documents -/

theorem checkPath_toOption (paths : List String) :
    (paths.filterMap fun path => (c.checkPath load path).toOption) =
      (loaded load paths).map fun e => { c.checkDocument e.2 e.1 with scanned := 1 } := by
  rw [loaded, List.map_filterMap]
  refine List.filterMap_congr fun path _ => ?_
  cases h : load path <;> simp [checkPath, h, Except.map, Except.toOption]

/-- A run sorts what the documents find, one after the other. -/
theorem run_eq (paths : List String) :
    c.run load paths =
      { diagnostics := byKey Diagnostic.place ((loaded load paths).flatMap (c.found false))
        suppressed := byKey Diagnostic.place ((loaded load paths).flatMap (c.found true))
        scanned := .ofNat (loaded load paths).length
        visited := .ofNat ((loaded load paths).map fun e => (c.checked e).length).sum } := by
  have hones : ((loaded load paths).map fun _ => (1 : UInt64)).sum =
      .ofNat (loaded load paths).length := by
    have := sum_map_ofNat (fun _ => 1) (loaded load paths)
    simpa using this
  simp only [run, checkPath_toOption, List.foldl_map, Outcome.foldl_merge, checkDocument_eq,
    Outcome.sort_eq, List.nil_append, UInt64.zero_add, hones, sum_map_ofNat]

/-! ### The order of the paths -/

/-- What a run over the paths leaves behind, measured by the documents that load. -/
structure Gathers (paths : List String) (o : Outcome) : Prop where
  /-- The paths that load are counted. -/
  scanned : o.scanned = .ofNat (paths.countP fun path => (load path).isOk)
  /-- The checked lambdas of their documents are counted. -/
  visited : o.visited = .ofNat ((loaded load paths).map fun e => (c.checked e).length).sum
  ascending : Ascending Diagnostic.place o.diagnostics
  suppressed_ascending : Ascending Diagnostic.place o.suppressed
  /-- Each place has the diagnostics that the documents have there: path by path, lambda by
  lambda, and for each lambda in the order of discovery. -/
  at_place : ∀ p, (o.diagnostics.filter fun x => x.place = p) =
    ((loaded load paths).flatMap (c.found false)).filter fun x => x.place = p
  suppressed_at_place : ∀ p, (o.suppressed.filter fun x => x.place = p) =
    ((loaded load paths).flatMap (c.found true)).filter fun x => x.place = p

theorem gathers_run (paths : List String) : c.Gathers load paths (c.run load paths) := by
  rw [run_eq]
  exact {
    scanned := by rw [Document.length_loaded]
    visited := rfl
    ascending := ascending_byKey _ _
    suppressed_ascending := ascending_byKey _ _
    at_place := filter_key_byKey _ _
    suppressed_at_place := filter_key_byKey _ _ }

/-- No place has diagnostics of both documents, nor suppressed ones of both. -/
def Apart (e e' : String × Document) : Prop :=
  ∀ suppressed, ∀ x ∈ c.found suppressed e, ∀ y ∈ c.found suppressed e', x.place ≠ y.place

theorem Apart.symm {c : Checker} {e e' : String × Document} (h : c.Apart e e') : c.Apart e' e :=
  fun suppressed x hx y hy heq => h suppressed y hy x hx heq.symm

/-- Documents that are apart can be taken in any order: at each place, one of them at most has
something. -/
theorem filter_found_of_perm {es' es : List (String × Document)} (hperm : es'.Perm es)
    (hapart : es.Pairwise c.Apart) (suppressed : Bool) (p : String ×ₗ ℕ ×ₗ ℕ) :
    ((es'.flatMap (c.found suppressed)).filter fun x => x.place = p) =
      (es.flatMap (c.found suppressed)).filter fun x => x.place = p := by
  induction hperm with
  | nil => rfl
  | cons e _ ih =>
    rw [List.flatMap_cons, List.flatMap_cons, List.filter_append, List.filter_append,
      ih hapart.of_cons]
  | swap e e' es =>
    have hpair : c.Apart e e' := List.rel_of_pairwise_cons hapart (List.mem_cons_self ..)
    simp only [List.flatMap_cons, List.filter_append, ← List.append_assoc]
    congr 1
    by_cases he : (c.found suppressed e).filter (fun x => x.place = p) = []
    · rw [he, List.append_nil, List.nil_append]
    · obtain ⟨x, hx⟩ := List.exists_mem_of_ne_nil _ he
      rw [List.mem_filter, decide_eq_true_iff] at hx
      have he' : (c.found suppressed e').filter (fun x => x.place = p) = [] := by
        refine List.filter_eq_nil_iff.mpr fun y hy hyp => ?_
        exact hpair suppressed x hx.1 y hy (hx.2.trans (of_decide_eq_true hyp).symm)
      rw [he', List.append_nil, List.nil_append]
  | trans hfirst hsecond ihfirst ihsecond =>
    have hmiddle := (hsecond.pairwise_iff Apart.symm).mpr hapart
    rw [ihfirst hmiddle, ihsecond hapart]

theorem run_perm {paths' paths : List String} (hperm : paths'.Perm paths) :
    (c.run load paths').scanned = (c.run load paths).scanned ∧
      (c.run load paths').visited = (c.run load paths).visited ∧
      ((loaded load paths).Pairwise c.Apart → c.run load paths' = c.run load paths) := by
  have hloaded : (loaded load paths').Perm (loaded load paths) := hperm.filterMap _
  have hlength : (loaded load paths').length = (loaded load paths).length := hloaded.length_eq
  have hsum : ((loaded load paths').map fun e => (c.checked e).length).sum =
      ((loaded load paths).map fun e => (c.checked e).length).sum := (hloaded.map _).sum_nat
  rw [run_eq, run_eq, hlength, hsum]
  refine ⟨rfl, rfl, fun hapart => ?_⟩
  have hfound : ∀ suppressed,
      byKey Diagnostic.place ((loaded load paths').flatMap (c.found suppressed)) =
        byKey Diagnostic.place ((loaded load paths).flatMap (c.found suppressed)) :=
    fun suppressed => byKey_congr _ (c.filter_found_of_perm hloaded hapart suppressed)
  rw [hfound, hfound]

/-- **What a run leaves behind.** The paths that load and the lambdas of their documents are
counted. The diagnostics, and the suppressed ones, ascend by place, and each place has what the
documents emit there, in the order of the paths, of the lambdas, and of discovery. A path that
does not load might as well be left out. In another order of the paths the counts are the same,
and so is all else when no place has diagnostics of two entries of the list. -/
theorem run_gathers (paths : List String) :
    (∀ e ∈ loaded load paths,
      c.checkDocument e.2 e.1 =
        { diagnostics := c.found false e
          suppressed := c.found true e
          visited := .ofNat (c.checked e).length } ∧
      ∀ l ∈ c.checked e, c.emitted e.2.classes e.1 l =
        ((c.detector.groupsOf e.2.classes l.receiver).entries.filter fun g =>
          ∀ s ∈ l.statements, ¬(c.detector.groupsOf e.2.classes l.receiver).Resolves s g).map
            fun g => c.detector.diagnostic ⟨l.fileOr e.1, l.span, l.statements⟩ g.1 g.2) ∧
    c.Gathers load paths (c.run load paths) ∧
    (∀ front bad back, paths = front ++ bad :: back → (load bad).isOk = false →
      c.run load paths = c.run load (front ++ back)) ∧
    ∀ paths', paths'.Perm paths →
      (c.run load paths').scanned = (c.run load paths).scanned ∧
        (c.run load paths').visited = (c.run load paths).visited ∧
        ((loaded load paths).Pairwise c.Apart → c.run load paths' = c.run load paths) := by
  refine ⟨fun e _ => ⟨c.checkDocument_eq e, fun l _ => c.emitted_eq e.2.classes e.1 l⟩,
    c.gathers_run load paths, ?_, fun paths' hperm => c.run_perm load hperm⟩
  intro front bad back hpaths hbad
  rw [hpaths, run_eq, run_eq, Document.loaded_of_error load hbad]

/-- Two paths with the same facts, about lambdas in the file of the path; no other path loads. -/
def twoPaths (path : String) : Except LoadError Document :=
  if path == "a.yaml" || path == "b.yaml" then .ok threeReceivers else .error (.unsupported path)

/-- A path that does not load is left out, and the other two change places. -/
theorem run_gathers_twoPaths :
    let c : Checker := ⟨⟨.ofPackage defaultPackage, .bean, .warning⟩, ⟨[]⟩, true⟩
    (twoPaths "notes.txt").isOk = false ∧
      (loaded twoPaths ["b.yaml", "notes.txt", "a.yaml"]).Pairwise c.Apart ∧
      (c.found false ("a.yaml", threeReceivers)).map Diagnostic.file = ["a.yaml"] ∧
      (c.run twoPaths ["b.yaml", "notes.txt", "a.yaml"]).scanned = 2 ∧
      c.run twoPaths ["a.yaml", "notes.txt", "b.yaml"] = c.run twoPaths ["b.yaml", "a.yaml"] := by
  intro c
  have hbad : (twoPaths "notes.txt").isOk = false := rfl
  have hapart : (loaded twoPaths ["b.yaml", "notes.txt", "a.yaml"]).Pairwise c.Apart := by
    show [("b.yaml", threeReceivers), ("a.yaml", threeReceivers)].Pairwise c.Apart
    rw [List.pairwise_pair]
    unfold Apart
    decide
  have hperm : ["a.yaml", "notes.txt", "b.yaml"].Perm ["b.yaml", "notes.txt", "a.yaml"] := by decide
  obtain ⟨-, hgathers, hskip, horder⟩ := run_gathers c twoPaths ["b.yaml", "notes.txt", "a.yaml"]
  refine ⟨hbad, hapart, by decide, hgathers.scanned, ?_⟩
  rw [(horder _ hperm).2.2 hapart]
  exact hskip ["b.yaml"] "notes.txt" ["a.yaml"] rfl hbad

end Checker
end BuilderLint
