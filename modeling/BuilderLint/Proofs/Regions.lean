import BuilderLint.Proofs.Editing
import BuilderLint.Proofs.Verdicts

/-! The SARIF report on a run.

A span says nothing of a position by writing zero, and may say nothing of its end, or of
one half of it. Regions count from one all the same, and where the span's end is in
order or open, so is the region's (`isForward_ofSpan`). What a fix deletes is the one
column of the opening brace (`isOneColumn_ofReplaced`). A run has a result for each of
its diagnostics, and a rule for what they report (`run_wellFormed`). -/
namespace BuilderLint
open Document (loaded)

/-! ### Spans and regions -/

/-- The line of the start is given, and the end is not before the start. -/
structure Span.InOrder (s : Span) : Prop where
  line : 1 ≤ s.startLine
  ordered : s.startLine < s.endLine ∨ s.startLine = s.endLine ∧ s.startCol ≤ s.endCol

/-- No end is given. -/
def Span.IsOpen (s : Span) : Prop := s.endLine = 0 ∧ s.endCol = 0

namespace Sarif

/-- All positions that are there count from one. -/
structure Region.CountsFromOne (r : Region) : Prop where
  startLine : 1 ≤ r.startLine
  startColumn : 1 ≤ r.startColumn
  endLine : ∀ n ∈ r.endLine, 1 ≤ n
  endColumn : ∀ n ∈ r.endColumn, 1 ≤ n

/-- The region starts where the span does, in line and column one where it has none. -/
structure Region.StartsAt (s : Span) (r : Region) : Prop where
  line : r.startLine.toNat = max s.startLine.toNat 1
  column : r.startColumn.toNat = max s.startCol.toNat 1

/-- The end is not before the start. Without a line it is in the line of the start, and without a
column it is the end of its line. -/
def Region.IsForward (r : Region) : Prop :=
  r.startLine < r.endLine.getD r.startLine ∨
    r.startLine = r.endLine.getD r.startLine ∧ ∀ n ∈ r.endColumn, r.startColumn ≤ n

/-- One column of one line; the end of a region is behind its last column. -/
structure Region.IsOneColumn (r : Region) : Prop where
  line : r.endLine = some r.startLine
  column : ∃ n, r.endColumn = some n ∧ n.toNat = r.startColumn.toNat + 1

/-! ### Positions -/

theorem toNat_atLeastOne (n : UInt64) : (atLeastOne n).toNat = max n.toNat 1 := by
  unfold atLeastOne
  split
  · rename_i h
    rw [h]
    rfl
  · rename_i h
    have hpos : n.toNat ≠ 0 := fun hzero => h (UInt64.toNat_inj.mp hzero)
    omega

theorem one_le_atLeastOne (n : UInt64) : 1 ≤ atLeastOne n := by
  rw [UInt64.le_iff_toNat_le, toNat_atLeastOne]
  exact Nat.le_max_right _ _

theorem mem_given_iff (n m : UInt64) : m ∈ given n ↔ m = n ∧ n ≠ 0 := by
  unfold given
  split
  · rename_i h
    simp [h]
  · rename_i h
    simp [h, eq_comm]

theorem one_le_of_mem_given {n m : UInt64} (h : m ∈ given n) : 1 ≤ m := by
  obtain ⟨rfl, hne⟩ := (mem_given_iff n m).mp h
  have hpos : m.toNat ≠ 0 := fun hzero => hne (UInt64.toNat_inj.mp hzero)
  rw [UInt64.le_iff_toNat_le]
  show 1 ≤ m.toNat
  omega

/-! ### Regions of lambdas -/

theorem Region.countsFromOne_ofSpan (s : Span) : (ofSpan s).CountsFromOne where
  startLine := one_le_atLeastOne _
  startColumn := one_le_atLeastOne _
  endLine := fun _ h => one_le_of_mem_given h
  endColumn := fun _ h => one_le_of_mem_given h

theorem Region.startsAt_ofSpan (s : Span) : (ofSpan s).StartsAt s where
  line := toNat_atLeastOne _
  column := toNat_atLeastOne _

theorem Region.isForward_of_inOrder {s : Span} (h : s.InOrder) : (ofSpan s).IsForward := by
  obtain ⟨hline, hordered⟩ := h
  have hpos : 0 < s.startLine.toNat := UInt64.le_iff_toNat_le.mp hline
  have hend : s.endLine ≠ 0 := by
    intro hzero
    rw [hzero] at hordered
    rcases hordered with hlt | ⟨heq, -⟩
    · exact UInt64.not_lt_zero hlt
    · rw [heq] at hpos
      exact Nat.lt_irrefl 0 hpos
  have hgiven : (ofSpan s).endLine.getD (ofSpan s).startLine = s.endLine := by
    simp [ofSpan, given, hend]
  rw [IsForward, hgiven]
  show atLeastOne s.startLine < s.endLine ∨ atLeastOne s.startLine = s.endLine ∧
    ∀ n ∈ given s.endCol, atLeastOne s.startCol ≤ n
  rw [atLeastOne_of_pos hpos]
  refine hordered.imp_right fun hsame => ⟨hsame.1, fun n hn => ?_⟩
  -- a column that is given is at least one, so it is not before the first
  have hone := UInt64.le_iff_toNat_le.mp (one_le_of_mem_given hn)
  obtain ⟨rfl, -⟩ := (mem_given_iff _ n).mp hn
  rw [UInt64.le_iff_toNat_le, toNat_atLeastOne]
  exact Nat.max_le.mpr ⟨UInt64.le_iff_toNat_le.mp hsame.2, hone⟩

theorem Region.isForward_of_isOpen {s : Span} (h : s.IsOpen) : (ofSpan s).IsForward := by
  have hline : (ofSpan s).endLine = none := if_pos h.1
  have hcolumn : (ofSpan s).endColumn = none := if_pos h.2
  rw [IsForward, hline, hcolumn]
  exact .inr ⟨rfl, fun _ hn => nomatch hn⟩

/-! ### Regions of fixes -/

theorem Region.isOneColumn_ofReplaced {r : BuilderLint.Replacement} (hold : r.oldText.length = 1)
    (hcol : r.range.startCol.toNat < UInt64.size - 1) : (ofReplaced r).IsOneColumn where
  line := rfl
  column := by
    refine ⟨_, rfl, ?_⟩
    show (atLeastOne r.range.startCol + UInt64.ofNat r.oldText.length).toNat =
      (atLeastOne r.range.startCol).toNat + 1
    rw [UInt64.size] at hcol
    rw [hold, UInt64.toNat_add, toNat_atLeastOne]
    show (max r.range.startCol.toNat 1 + 1) % 2 ^ 64 = _
    omega

theorem Region.startsAt_ofReplaced (r : BuilderLint.Replacement) :
    (ofReplaced r).StartsAt r.range where
  line := toNat_atLeastOne _
  column := toNat_atLeastOne _

theorem Region.IsOneColumn.countsFromOne {r : Region} (h : r.IsOneColumn) (hline : 1 ≤ r.startLine)
    (hcolumn : 1 ≤ r.startColumn) : r.CountsFromOne where
  startLine := hline
  startColumn := hcolumn
  endLine := by
    intro n hn
    rw [h.line, Option.mem_some_iff] at hn
    exact hn ▸ hline
  endColumn := by
    intro n hn
    obtain ⟨m, hm, hbehind⟩ := h.column
    rw [hm, Option.mem_some_iff] at hn
    rw [UInt64.le_iff_toNat_le, ← hn, hbehind]
    exact Nat.le_add_left 1 _

/-! ### Results and rules -/

/-- The result is the one for a diagnostic of a lambda: it has one region, that of the lambda's span,
and each of its fixes deletes the one column at which the lambda starts. -/
structure Result.WellFormed (d : Diagnostic) (span : Span) (r : Result) : Prop where
  ruleId : r.ruleId = d.issue
  message : r.message.text = d.message
  located : ∃ region, r.locations = [⟨⟨⟨uriOf d.file⟩, region⟩⟩] ∧ region.StartsAt span ∧
    region.CountsFromOne ∧ (span.InOrder ∨ span.IsOpen → region.IsForward)
  deleted : ∀ f ∈ r.fixes, ∀ change ∈ f.changes, ∀ p ∈ change.replacements,
    p.deleted.StartsAt span ∧ p.deleted.CountsFromOne ∧ p.deleted.IsOneColumn

theorem Result.wellFormed_ofDiagnostic {d : Diagnostic}
    (hfix : ∀ p ∈ d.replacements, p.oldText.length = 1 ∧ p.range = d.span)
    (hcol : d.span.startCol.toNat < UInt64.size - 1) : (ofDiagnostic d).WellFormed d d.span where
  ruleId := rfl
  message := rfl
  located := ⟨_, rfl, Region.startsAt_ofSpan _, Region.countsFromOne_ofSpan _, fun h =>
    h.elim Region.isForward_of_inOrder Region.isForward_of_isOpen⟩
  deleted := by
    intro f hf change hchange p hp
    obtain ⟨q, hq, rfl⟩ := List.mem_map.mp hf
    rw [List.mem_singleton.mp hchange] at hp
    rw [List.mem_singleton.mp hp]
    obtain ⟨hold, hrange⟩ := hfix q hq
    have hone : (Region.ofReplaced q).IsOneColumn :=
      Region.isOneColumn_ofReplaced hold (hrange ▸ hcol)
    exact ⟨hrange ▸ Region.startsAt_ofReplaced q,
      hone.countsFromOne (one_le_atLeastOne _) (one_le_atLeastOne _), hone⟩

theorem map_id_rulesOf (o : Outcome) :
    (rulesOf o).map Rule.id =
      (Issue.all.map Issue.id).filter fun id => o.diagnostics.any fun d => d.issue == id := by
  rw [rulesOf, List.map_map, List.filter_map]
  rfl

/-- What is reported has one rule. -/
theorem count_rulesOf {o : Outcome} {d : Diagnostic} (hd : d ∈ o.diagnostics)
    (hknown : d.issue ∈ Issue.all.map Issue.id) : ((rulesOf o).map Rule.id).count d.issue = 1 := by
  have hdistinct : (Issue.all.map Issue.id).Nodup := by decide
  rw [map_id_rulesOf]
  refine List.count_eq_one_of_mem (hdistinct.filter _) (List.mem_filter.mpr ⟨hknown, ?_⟩)
  exact List.any_eq_true.mpr ⟨d, hd, beq_self_eq_true _⟩

/-- Every rule is for something that is reported. -/
theorem exists_of_mem_rulesOf {o : Outcome} {rule : Rule} (h : rule ∈ rulesOf o) :
    ∃ d ∈ o.diagnostics, d.issue = rule.id := by
  obtain ⟨i, hi, rfl⟩ := List.mem_map.mp h
  obtain ⟨d, hd, heq⟩ := List.any_eq_true.mp (List.mem_filter.mp hi).2
  exact ⟨d, hd, beq_iff_eq.mp heq⟩

end Sarif

/-! ### The report on a run -/

namespace Checker
variable (c : Checker)

/-- What a lambda emits is of the one issue, at the span of the lambda, and its fixes stand for the
opening brace there. -/
theorem fixes_of_emitted {classes : List ClassDecl} {fallback : String} {l : Lambda}
    {x : Diagnostic} (h : x ∈ c.emitted classes fallback l) :
    x.issue ∈ Issue.all.map Issue.id ∧ x.span = l.span ∧
      ∀ p ∈ x.replacements, p.oldText.length = 1 ∧ p.range = x.span := by
  obtain ⟨g, -, rfl⟩ := List.mem_map.mp h
  refine ⟨List.mem_singleton.mpr rfl, rfl, fun p hp => ?_⟩
  obtain ⟨q, -, rfl⟩ := List.mem_map.mp hp
  refine ⟨?_, rfl⟩
  rw [← String.length_toList, q.toList_oldText]
  rfl

/-- **The SARIF report on a run.** It has a result for each diagnostic, in order, and nothing of the
suppressed ones. The id of each result is that of one rule, and each rule is that of a result. With
spans of any kind, as long as a column can stand behind the start, all positions count from one, and
a fix deletes one column. Where a lambda's span is in order or has no end, the end of the region is
not before its start. -/
theorem run_wellFormed (load : String → Except LoadError Document) (paths : List String)
    (hcol : ∀ d ∈ (c.run load paths).diagnostics, d.span.startCol.toNat < UInt64.size - 1) :
    let o := c.run load paths
    ∃ run, (Sarif.Log.ofOutcome o).runs = [run] ∧
      List.Forall₂ (fun d r => ∃ e ∈ loaded load paths, ∃ l ∈ e.2.lambdas,
        d.span = l.span ∧ r.WellFormed d l.span) o.diagnostics run.results ∧
      (∀ suppressed, Sarif.Log.ofOutcome { o with suppressed } = Sarif.Log.ofOutcome o) ∧
      (∀ r ∈ run.results, (run.tool.driver.rules.map Sarif.Rule.id).count r.ruleId = 1) ∧
      ∀ rule ∈ run.tool.driver.rules, ∃ r ∈ run.results, r.ruleId = rule.id := by
  intro o
  have hemitted : ∀ d ∈ o.diagnostics, ∃ e ∈ loaded load paths, ∃ l ∈ e.2.lambdas,
      d ∈ c.emitted e.2.classes e.1 l := by
    intro d hd
    obtain ⟨e, he, l, hl, -, hd⟩ := (c.mem_run_diagnostics load paths d).mp hd
    exact ⟨e, he, l, (c.mem_checked.mp hl).2.1, hd⟩
  refine ⟨_, rfl, ?_, fun _ => rfl, ?_, ?_⟩
  · rw [List.forall₂_map_right_iff, List.forall₂_same]
    intro d hd
    obtain ⟨e, he, l, hl, hx⟩ := hemitted d hd
    obtain ⟨-, hspan, hfix⟩ := c.fixes_of_emitted hx
    exact ⟨e, he, l, hl, hspan, hspan ▸ Sarif.Result.wellFormed_ofDiagnostic hfix (hcol d hd)⟩
  · intro r hr
    obtain ⟨d, hd, rfl⟩ := List.mem_map.mp hr
    obtain ⟨e, -, l, -, hx⟩ := hemitted d hd
    exact Sarif.count_rulesOf hd (c.fixes_of_emitted hx).1
  · intro rule hrule
    obtain ⟨d, hd, hid⟩ := Sarif.exists_of_mem_rulesOf hrule
    exact ⟨.ofDiagnostic d, List.mem_map_of_mem hd, hid⟩

/-- A lambda of which only the two lines are known. -/
def linesOnly : Document where
  classes := threeReceivers.classes
  lambdas := [{ receiver := "Tls", span := { startLine := 4, endLine := 6 } }]

theorem run_wellFormed_linesOnly :
    let c : Checker := ⟨⟨.ofPackage defaultPackage, .bean, .warning⟩, ⟨[]⟩, true⟩
    let o := c.run (fun _ => .ok linesOnly) ["facts.json"]
    (∀ d ∈ o.diagnostics, d.span.startCol.toNat < UInt64.size - 1) ∧
      ∃ run r, (Sarif.Log.ofOutcome o).runs = [run] ∧ run.results = [r] ∧
        ∃ l ∈ r.locations, l.physical.region.CountsFromOne ∧ l.physical.region.IsForward := by
  intro c o
  have hspan : ∀ d ∈ o.diagnostics, d.span = { startLine := 4, endLine := 6 } := by
    intro d hd
    obtain ⟨e, he, l, hl, -, hx⟩ := (c.mem_run_diagnostics _ _ d).mp hd
    rw [List.mem_singleton.mp he] at hl
    rw [(c.fixes_of_emitted hx).2.1, List.mem_singleton.mp (c.mem_checked.mp hl).2.1]
  have hcol : ∀ d ∈ o.diagnostics, d.span.startCol.toNat < UInt64.size - 1 := by
    intro d hd
    rw [hspan d hd]
    decide
  have hone : o.diagnostics.length = 1 := by
    have hfound : ([("facts.json", linesOnly)].flatMap (c.found false)).length = 1 := by decide
    rw [show o = _ from c.run_eq _ _, ← hfound]
    exact (Sorting.byKey_perm ..).length_eq
  obtain ⟨d, hd⟩ := List.length_eq_one_iff.mp hone
  obtain ⟨run, hrun, hresults, -⟩ := run_wellFormed c _ _ hcol
  rw [show (c.run _ _).diagnostics = [d] from hd, List.forall₂_cons_left_iff] at hresults
  obtain ⟨r, rest, ⟨e, -, l, -, hlambda, hwell⟩, hrest, hr⟩ := hresults
  rw [List.forall₂_nil_left_iff] at hrest
  rw [hrest] at hr
  obtain ⟨region, hregion, -, hcounts, hforward⟩ := hwell.located
  have horder : l.span.InOrder := by
    rw [← hlambda, hspan d (hd ▸ List.mem_singleton.mpr rfl)]
    exact ⟨by decide, by decide⟩
  refine ⟨hcol, run, r, hrun, hr, ⟨⟨⟨Sarif.uriOf d.file⟩, region⟩⟩, ?_, hcounts,
    hforward (.inl horder)⟩
  rw [hregion]
  exact List.mem_singleton.mpr rfl

end Checker
end BuilderLint
