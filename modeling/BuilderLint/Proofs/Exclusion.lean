import BuilderLint.Proofs.Runs
import Mathlib.Algebra.BigOperators.Group.List.Basic

/-! Excluding more paths.

A set of patterns matches what one of its patterns matches (`isMatch_iff`), so further
patterns exclude further files and no others. A lambda's diagnostics carry the file
that was looked at, and the sort goes with the filter. So a run that excludes more
finds what is left of the diagnostics in files that the further patterns do not match
(`run_of_excludesMore`). -/
namespace BuilderLint
open Sorting
open Document (loaded)

/-! ### Sets of patterns -/

namespace Glob.PatternSet

/-- A set can be made of patterns that can all be read. -/
theorem exists_ofTexts_iff (texts : List String) :
    (∃ set, ofTexts texts = .ok set) ↔ ∀ text ∈ texts, ∃ p, Pattern.ofText text = .ok p := by
  induction texts with
  | nil => simp [ofTexts]
  | cons text rest ih =>
    rw [List.forall_mem_cons, ← ih]
    cases hp : Pattern.ofText text with
    | error e => simp [ofTexts, hp]
    | ok p => cases hrest : ofTexts rest <;> simp [ofTexts, hp, hrest, Except.map]

/-- A set matches what one of its patterns matches. -/
theorem isMatch_iff {texts : List String} {set : PatternSet} (h : ofTexts texts = .ok set)
    (path : String) :
    set.isMatch path = true ↔
      ∃ text ∈ texts, ∃ p, Pattern.ofText text = .ok p ∧ p.isMatch path = true := by
  induction texts generalizing set with
  | nil =>
    cases h
    simp [isMatch]
  | cons text rest ih =>
    cases hp : Pattern.ofText text with
    | error e => simp [ofTexts, hp] at h
    | ok p =>
      cases hrest : ofTexts rest with
      | error e => simp [ofTexts, hp, hrest, Except.map] at h
      | ok others =>
        simp only [ofTexts, hp, hrest, Except.map, Except.ok.injEq] at h
        subst h
        have hfirst : p.isMatch path = true ↔
            ∃ q, Pattern.ofText text = .ok q ∧ q.isMatch path = true := by simp [hp]
        show (p.isMatch path || others.isMatch path) = true ↔ _
        rw [Bool.or_eq_true, ih hrest, List.exists_mem_cons_iff, hfirst]

/-- A set of all patterns of two sets matches what one of the two matches. -/
theorem isMatch_of_mem_iff {all texts extra : List String}
    (hmem : ∀ text, text ∈ all ↔ text ∈ texts ∨ text ∈ extra) {whole set q : PatternSet}
    (hwhole : ofTexts all = .ok whole) (hset : ofTexts texts = .ok set)
    (hq : ofTexts extra = .ok q) (path : String) :
    whole.isMatch path = (set.isMatch path || q.isMatch path) := by
  rw [Bool.eq_iff_iff, Bool.or_eq_true, isMatch_iff hwhole, isMatch_iff hset, isMatch_iff hq]
  simp only [hmem, or_and_right, exists_or]

end Glob.PatternSet

theorem Config.patterns_eq_ok {texts : List String} {set : Glob.PatternSet} :
    Config.patterns texts = .ok set ↔ Glob.PatternSet.ofTexts texts = .ok set := by
  unfold Config.patterns
  cases Glob.PatternSet.ofTexts texts <;> simp [Except.mapError]

/-- The second configuration differs from the first in that it excludes further patterns. -/
structure Config.ExcludesMore (config : Config) (extra : List String) (config' : Config) :
    Prop where
  same : config' = { config with excludedPaths := config'.excludedPaths }
  mem_iff : ∀ text, text ∈ config'.excludedPaths ↔ text ∈ config.excludedPaths ∨ text ∈ extra

/-- What comes from an element passes the filter exactly where the element does. -/
theorem filter_flatMap_of_source {α β : Type} {f : α → List β} {p : β → Bool} {q : α → Bool}
    (h : ∀ a, ∀ b ∈ f a, p b = q a) (l : List α) :
    (l.flatMap f).filter p = (l.filter q).flatMap f := by
  induction l with
  | nil => rfl
  | cons a rest ih =>
    rw [List.flatMap_cons, List.filter_append, ih]
    cases ha : q a with
    | true =>
      rw [List.filter_cons_of_pos ha, List.flatMap_cons,
        List.filter_eq_self.mpr fun b hb => (h a b hb).trans ha]
    | false =>
      rw [List.filter_cons_of_neg (by simp [ha]),
        List.filter_eq_nil_iff.mpr fun b hb => by simp [h a b hb, ha], List.nil_append]

namespace Checker
variable (c : Checker)

/-- The lambdas of a document that are checked, in files that the patterns match. -/
def leftOut (q : Glob.PatternSet) (e : String × Document) : List Lambda :=
  e.2.lambdas.filter fun l => l.Checked c e.2.classes e.1 ∧ q.isMatch (l.fileOr e.1) = true

/-- A checker that excludes, besides, what further patterns match. -/
def Excludes (q : Glob.PatternSet) (c' : Checker) : Prop :=
  c' = { c with excluded := c'.excluded } ∧
    ∀ path, c'.excluded.isMatch path = (c.excluded.isMatch path || q.isMatch path)

theorem excludes_of_excludesMore {config config' : Config} {extra : List String} {c c' : Checker}
    (hc : ofConfig config = .ok c) (hc' : ofConfig config' = .ok c')
    (hmore : config.ExcludesMore extra config') :
    ∃ q, Glob.PatternSet.ofTexts extra = .ok q ∧ c.Excludes q c' := by
  obtain ⟨hexcluded, hdetector, henabled⟩ := ofConfig_eq_ok hc
  obtain ⟨hexcluded', hdetector', henabled'⟩ := ofConfig_eq_ok hc'
  rw [Config.excluded, Config.patterns_eq_ok] at hexcluded hexcluded'
  have hread := (Glob.PatternSet.exists_ofTexts_iff _).mp ⟨_, hexcluded'⟩
  obtain ⟨q, hq⟩ := (Glob.PatternSet.exists_ofTexts_iff extra).mpr fun text htext =>
    hread text ((hmore.mem_iff text).mpr (.inr htext))
  refine ⟨q, hq, ?_, Glob.PatternSet.isMatch_of_mem_iff hmore.mem_iff hexcluded' hexcluded hq⟩
  have hsame : c'.detector = c.detector ∧ c'.enabled = c.enabled := by
    rw [hdetector, hdetector', henabled, henabled', hmore.same]
    exact ⟨rfl, rfl⟩
  rw [← hsame.1, ← hsame.2]

section
variable {c} {c' : Checker} {q : Glob.PatternSet} (h : c.Excludes q c')
include h

theorem Excludes.checked (e : String × Document) :
    c'.checked e = (c.checked e).filter fun l => !q.isMatch (l.fileOr e.1) := by
  obtain ⟨hsame, hmatch⟩ := h
  have hchecked : ∀ l : Lambda, l.Checked c' e.2.classes e.1 ↔
      l.Checked c e.2.classes e.1 ∧ q.isMatch (l.fileOr e.1) = false := by
    intro l
    unfold Lambda.Checked
    rw [hmatch, Bool.or_eq_false_iff, hsame]
    grind
  unfold Checker.checked
  rw [hsame]
  by_cases hon : c.enabled = true
  · rw [if_pos hon, if_pos hon, List.filter_filter]
    refine List.filter_congr fun l _ => ?_
    have := hchecked l
    rw [hsame] at this
    simp [this, Bool.and_comm]
  · rw [if_neg hon, if_neg hon]
    rfl

theorem Excludes.found (suppressed : Bool) (e : String × Document) :
    c'.found suppressed e = (c.found suppressed e).filter fun x => !q.isMatch x.file := by
  have hemitted : ∀ l, ∀ x ∈ c.emitted e.2.classes e.1 l,
      (!q.isMatch x.file) = !q.isMatch (l.fileOr e.1) := by
    intro l x hx
    obtain ⟨g, -, rfl⟩ := List.mem_map.mp hx
    rfl
  have hsame : c'.emitted = c.emitted := by
    rw [h.1]
    rfl
  unfold Checker.found
  rw [h.checked, hsame, List.filter_comm, filter_flatMap_of_source hemitted]

theorem Excludes.length_checked (hon : c.enabled = true) (e : String × Document) :
    (c.checked e).length = (c'.checked e).length + (c.leftOut q e).length := by
  have hout : c.leftOut q e = (c.checked e).filter fun l => q.isMatch (l.fileOr e.1) := by
    unfold leftOut Checker.checked
    rw [if_pos hon, List.filter_filter]
    exact List.filter_congr fun l _ => by rw [Bool.decide_and, Bool.decide_eq_true, Bool.and_comm]
  rw [h.checked, hout]
  have := List.length_eq_length_filter_add (l := c.checked e) fun l => q.isMatch (l.fileOr e.1)
  omega

/-- A lambda in a file that the further patterns do not match has the same outcome. -/
theorem Excludes.checkLambda (classes : List ClassDecl) (fallback : String) (l : Lambda)
    (hfile : q.isMatch (l.fileOr fallback) = false) :
    c'.checkLambda classes fallback l = c.checkLambda classes fallback l := by
  have hmatch := h.2 (l.fileOr fallback)
  rw [hfile, Bool.or_false] at hmatch
  have hdetector : c'.detector = c.detector := by rw [h.1]
  simp only [Checker.checkLambda, isRoot, hmatch, hdetector]
  rfl

theorem Excludes.run (hon : c.enabled = true) (load : String → Except LoadError Document)
    (paths : List String) :
    (c'.run load paths).diagnostics =
        (c.run load paths).diagnostics.filter (fun x => !q.isMatch x.file) ∧
      (c'.run load paths).suppressed =
        (c.run load paths).suppressed.filter (fun x => !q.isMatch x.file) ∧
      (c'.run load paths).scanned = (c.run load paths).scanned ∧
      (c.run load paths).visited = (c'.run load paths).visited +
        .ofNat ((loaded load paths).map fun e => (c.leftOut q e).length).sum := by
  have hfound : ∀ suppressed, (loaded load paths).flatMap (c'.found suppressed) =
      ((loaded load paths).flatMap (c.found suppressed)).filter fun x => !q.isMatch x.file := by
    intro suppressed
    rw [List.filter_flatMap, funext (h.found suppressed)]
  have hcount : ((loaded load paths).map fun e => (c.checked e).length).sum =
      ((loaded load paths).map fun e => (c'.checked e).length).sum +
        ((loaded load paths).map fun e => (c.leftOut q e).length).sum := by
    rw [← List.sum_map_add]
    simp only [← h.length_checked hon]
  rw [run_eq, run_eq, hfound, hfound, hcount, UInt64.ofNat_add]
  exact ⟨(filter_byKey _ _ _).symm, (filter_byKey _ _ _).symm, rfl, rfl⟩

end

/-- **Excluding more paths.** Take two configurations that can be used, do not disable the issue,
and differ in that the second excludes further patterns. Then a run under the second reports and
suppresses what the first does, in the same order, but for what is in files that the further
patterns match. It visits fewer lambdas, by as many as the first checks in such files, and no
lambda in another file has another outcome. -/
theorem run_of_excludesMore {config config' : Config} {extra : List String} {c c' : Checker}
    (hc : ofConfig config = .ok c) (hc' : ofConfig config' = .ok c')
    (henabled : config.isDisabled Issue.mandatory.id = false)
    (hmore : config.ExcludesMore extra config') :
    ∃ q, Glob.PatternSet.ofTexts extra = .ok q ∧
      (∀ (load : String → Except LoadError Document) (paths : List String),
        (c'.run load paths).diagnostics =
            (c.run load paths).diagnostics.filter (fun x => !q.isMatch x.file) ∧
          (c'.run load paths).suppressed =
            (c.run load paths).suppressed.filter (fun x => !q.isMatch x.file) ∧
          (c'.run load paths).scanned = (c.run load paths).scanned ∧
          (c.run load paths).visited = (c'.run load paths).visited +
            .ofNat ((loaded load paths).map fun e => (c.leftOut q e).length).sum) ∧
      ∀ classes fallback l, q.isMatch (Lambda.fileOr l fallback) = false →
        c'.checkLambda classes fallback l = c.checkLambda classes fallback l := by
  obtain ⟨q, hq, hexcludes⟩ := excludes_of_excludesMore hc hc' hmore
  have hon : c.enabled = true := by
    rw [(ofConfig_eq_ok hc).2.2, henabled]
    rfl
  exact ⟨q, hq, hexcludes.run hon, hexcludes.checkLambda⟩

/-- Of two files with a lambda each, the further pattern takes out one. -/
theorem run_of_excludesMore_oneFile :
    ∃ c c' q, ofConfig {} = .ok c ∧ ofConfig { excludedPaths := ["a*"] } = .ok c' ∧
      ({} : Config).isDisabled Issue.mandatory.id = false ∧
      ({} : Config).ExcludesMore ["a*"] { excludedPaths := ["a*"] } ∧
      Glob.PatternSet.ofTexts ["a*"] = .ok q ∧
      (c.run twoPaths ["a.yaml", "b.yaml"]).visited = 2 ∧
      (c'.run twoPaths ["a.yaml", "b.yaml"]).visited + 1 = 2 ∧
      (c'.run twoPaths ["a.yaml", "b.yaml"]).diagnostics =
        (c.run twoPaths ["a.yaml", "b.yaml"]).diagnostics.filter fun x => !q.isMatch x.file := by
  let c : Checker := ⟨⟨.ofPackage defaultPackage, .bean, .error⟩, ⟨[]⟩, true⟩
  let c' : Checker := { c with excluded := ⟨[⟨[.literal 'a', .star]⟩]⟩ }
  have hc : ofConfig {} = .ok c := rfl
  have hc' : ofConfig { excludedPaths := ["a*"] } = .ok c' := rfl
  have hmore : ({} : Config).ExcludesMore ["a*"] { excludedPaths := ["a*"] } :=
    ⟨rfl, fun text => by simp⟩
  obtain ⟨q, hq, hrun, -⟩ := run_of_excludesMore hc hc' rfl hmore
  obtain ⟨hdiagnostics, -, -, hvisited⟩ := hrun twoPaths ["a.yaml", "b.yaml"]
  obtain rfl : ⟨[⟨[.literal 'a', .star]⟩]⟩ = q := Except.ok.inj hq
  have htwo : (c.run twoPaths ["a.yaml", "b.yaml"]).visited = 2 := by
    rw [run_eq]
    decide
  have hone : ((loaded twoPaths ["a.yaml", "b.yaml"]).map fun e =>
      (c.leftOut ⟨[⟨[.literal 'a', .star]⟩]⟩ e).length).sum = 1 := by decide +kernel
  rw [hone] at hvisited
  exact ⟨c, c', _, hc, hc', rfl, hmore, hq, htwo, hvisited.symm.trans htwo, hdiagnostics⟩

end Checker
end BuilderLint
