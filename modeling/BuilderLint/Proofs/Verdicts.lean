import BuilderLint.Proofs.Shards
import BuilderLint.Proofs.Suppressing

/-! The verdict on a request.

An outcome has errors when a checked lambda that is not suppressed misses a group, and
what is reported is an error (`hasErrors_run_iff`). The exit code, the flag of the JSON
report and the levels of the SARIF report each say whether it has. A request comes as
far as a report when its format and configuration are right and its path leads to
documents (`ReportsOn`); in all other cases nothing is printed (`runCheck_verdict`). -/
namespace BuilderLint
open Document (loaded)

/-! ### Outcomes with errors -/

/-- The lambda is checked and not suppressed, and a group of its receiver is met by none of its
statements. -/
def Lambda.Fails (c : Checker) (e : String × Document) (l : Lambda) : Prop :=
  l.Checked c e.2.classes e.1 ∧ ¬l.Covered ∧
    ∃ g ∈ (c.detector.groupsOf e.2.classes l.receiver).entries,
      ∀ s ∈ l.statements, ¬(c.detector.groupsOf e.2.classes l.receiver).Resolves s g

namespace Checker
variable (c : Checker)

theorem severity_of_emitted {classes : List ClassDecl} {fallback : String} {l : Lambda}
    {x : Diagnostic} (h : x ∈ c.emitted classes fallback l) : x.severity = c.detector.severity := by
  obtain ⟨g, -, rfl⟩ := List.mem_map.mp h
  rfl

theorem mem_checked {e : String × Document} {l : Lambda} :
    l ∈ c.checked e ↔ c.enabled = true ∧ l ∈ e.2.lambdas ∧ l.Checked c e.2.classes e.1 := by
  by_cases h : c.enabled = true
  · simp [checked, h]
  · simp [checked, h]

theorem exists_emitted_iff {e : String × Document} {l : Lambda} :
    (∃ x, x ∈ c.emitted e.2.classes e.1 l) ↔
      ∃ g ∈ (c.detector.groupsOf e.2.classes l.receiver).entries,
        ∀ s ∈ l.statements, ¬(c.detector.groupsOf e.2.classes l.receiver).Resolves s g := by
  rw [emitted_eq]
  simp only [List.mem_map, List.mem_filter, decide_eq_true_iff]
  constructor
  · rintro ⟨_, g, hg, -⟩
    exact ⟨g, hg⟩
  · rintro ⟨g, hg⟩
    exact ⟨_, g, hg, rfl⟩

/-- The diagnostics of a run are what the checked lambdas emit that are not suppressed. -/
theorem mem_run_diagnostics (load : String → Except LoadError Document) (paths : List String)
    (x : Diagnostic) :
    x ∈ (c.run load paths).diagnostics ↔
      ∃ e ∈ loaded load paths, ∃ l ∈ c.checked e, ¬l.Covered ∧
        x ∈ c.emitted e.2.classes e.1 l := by
  rw [(c.run_sides load paths).1, (Sorting.byKey_perm ..).mem_iff]
  simp only [List.mem_flatMap, emittedTo, List.mem_ite_nil_left]

theorem hasErrors_run_iff (load : String → Except LoadError Document) (paths : List String) :
    (c.run load paths).hasErrors = true ↔
      c.enabled = true ∧ c.detector.severity = .error ∧
        ∃ e ∈ loaded load paths, ∃ l ∈ e.2.lambdas, l.Fails c e := by
  unfold Outcome.hasErrors
  simp only [List.any_eq_true, beq_iff_eq, mem_run_diagnostics]
  constructor
  · rintro ⟨x, ⟨e, he, l, hl, hfree, hx⟩, herror⟩
    obtain ⟨henabled, hmem, hchecked⟩ := c.mem_checked.mp hl
    exact ⟨henabled, (c.severity_of_emitted hx).symm.trans herror, e, he, l, hmem, hchecked, hfree,
      c.exists_emitted_iff.mp ⟨x, hx⟩⟩
  · rintro ⟨henabled, herror, e, he, l, hmem, hchecked, hfree, hmissed⟩
    obtain ⟨x, hx⟩ := c.exists_emitted_iff.mpr hmissed
    exact ⟨x, ⟨e, he, l, c.mem_checked.mpr ⟨henabled, hmem, hchecked⟩, hfree, hx⟩,
      (c.severity_of_emitted hx).trans herror⟩

theorem hasErrors_run_of_config {config : Config} (hconfig : ofConfig config = .ok c)
    (load : String → Except LoadError Document) (paths : List String) :
    (c.run load paths).hasErrors = true ↔
      config.isDisabled Issue.mandatory.id = false ∧ config.severity.getD .error = .error ∧
        ∃ e ∈ loaded load paths, ∃ l ∈ e.2.lambdas, l.Fails c e := by
  obtain ⟨-, hdetector, henabled⟩ := ofConfig_eq_ok hconfig
  rw [hasErrors_run_iff, henabled, hdetector, Bool.not_eq_true']
  rfl

end Checker

/-! ### Reports with errors -/

theorem Sarif.levelOf_eq_error_iff (s : Severity) : levelOf s = "error" ↔ s = .error := by
  cases s <;> decide

theorem Sarif.exists_error_iff (o : Outcome) :
    (∃ run ∈ (Log.ofOutcome o).runs, ∃ r ∈ run.results, r.level = "error") ↔
      o.hasErrors = true := by
  simp [Log.ofOutcome, Result.ofDiagnostic, levelOf_eq_error_iff, Outcome.hasErrors]

theorem Report.not_passed_iff (path : String) (o : Outcome) :
    (ofOutcome path o).passed = false ↔ o.hasErrors = true := by
  simp [ofOutcome]

namespace CommandLine

theorem exitAfter_eq_one_iff (o : Outcome) : exitAfter o = 1 ↔ o.hasErrors = true := by
  unfold exitAfter
  cases o.hasErrors <;> decide

theorem exitAfter_eq_zero_iff (o : Outcome) : exitAfter o = 0 ↔ ¬o.hasErrors = true := by
  unfold exitAfter
  cases o.hasErrors <;> decide

theorem ReportFormat.render_ne_empty (format : ReportFormat) (view : Report.View) (path : String)
    (o : Outcome) : format.render view path o ≠ "" := by
  cases format <;> simp [render, Report.View.render, Report.View.heading]

/-! ### Requests that are reported on -/

/-- The paths of the documents that are checked: the path itself when a document can be loaded from
it, or what is found in the directory. -/
inductive Examines (fs : FileSystem) (config : Config) (path : String) : List String → Prop where
  | document (entry : Entry) (d : Document) (hentry : fs.entry path = .ok entry)
      (hfile : entry.isDirectory = false) (hload : Document.load fs path = .ok d) :
      Examines fs config path [path]
  | directory (entry : Entry) (included : Glob.PatternSet) (paths : List String)
      (hentry : fs.entry path = .ok entry) (hdirectory : entry.isDirectory = true)
      (hincluded : config.included = .ok included) (hpaths : fs.collect path included = .ok paths)
      (hsome : paths ≠ []) : Examines fs config path paths

theorem bind_eq_ok_iff {ε α β : Type} {x : Except ε α} {f : α → Except ε β} {b : β} :
    (x >>= f) = .ok b ↔ ∃ a, x = .ok a ∧ f a = .ok b := by
  cases x <;> simp [bind, Except.bind]

theorem mapError_eq_ok_iff {ε ε' α : Type} {x : Except ε α} {f : ε → ε'} {a : α} :
    x.mapError f = .ok a ↔ x = .ok a := by
  cases x <;> simp [Except.mapError]

theorem outcomeAt_eq_ok_iff (fs : FileSystem) (config : Config) (c : Checker) (path : String)
    (o : Outcome) :
    outcomeAt fs config c path = .ok o ↔
      ∃ paths, Examines fs config path paths ∧ o = c.run (Document.load fs) paths := by
  constructor
  · intro h
    rw [outcomeAt, bind_eq_ok_iff] at h
    obtain ⟨entry, hentry, h⟩ := h
    rw [mapError_eq_ok_iff] at hentry
    cases hdirectory : entry.isDirectory with
    | false =>
      rw [hdirectory, if_neg Bool.false_ne_true, bind_eq_ok_iff] at h
      obtain ⟨outcome, hcheck, h⟩ := h
      rw [mapError_eq_ok_iff] at hcheck
      cases hload : Document.load fs path with
      | error why => simp [Checker.checkPath, hload, Except.map] at hcheck
      | ok d =>
        obtain ⟨_, hcheck', hsort⟩ := c.exists_checkPath (Document.load fs) hload
        cases hcheck.symm.trans hcheck'
        exact ⟨[path], .document entry d hentry hdirectory hload,
          (Except.ok.inj h).symm.trans hsort⟩
    | true =>
      rw [hdirectory, if_pos rfl, bind_eq_ok_iff] at h
      obtain ⟨included, hincluded, h⟩ := h
      rw [bind_eq_ok_iff] at h
      obtain ⟨paths, hpaths, h⟩ := h
      rw [mapError_eq_ok_iff] at hincluded hpaths
      cases paths with
      | nil => cases h
      | cons first rest =>
        exact ⟨first :: rest, .directory entry included _ hentry hdirectory hincluded hpaths
          (List.cons_ne_nil _ _), (Except.ok.inj h).symm⟩
  · rintro ⟨paths, hpaths, rfl⟩
    cases hpaths with
    | document entry d hentry hfile hload =>
      exact c.outcomeAt_file hentry hfile hload config
    | directory entry included paths hentry hdirectory hincluded hpaths hsome =>
      simp [outcomeAt, hentry, hdirectory, hincluded, hpaths, hsome, bind, Except.bind, Except.mapError, pure,
        Except.pure]

/-- All that a report needs: a format, a configuration that can be used, and documents. -/
structure ReportsOn (fs : FileSystem) (request : CheckRequest) (format : ReportFormat)
    (config : Config) (c : Checker) (paths : List String) : Prop where
  known_format : ReportFormat.ofText? request.format = some format
  loaded_config : loadConfig fs request.config = .ok config
  usable_config : Checker.ofConfig config = .ok c
  examined : Examines fs config request.path paths

section
variable {fs : FileSystem} (colours : Bool) {request : CheckRequest}

theorem runCheck_of_reportsOn {format : ReportFormat} {config : Config} {c : Checker}
    {paths : List String} (h : ReportsOn fs request format config c paths) :
    runCheck fs colours request =
      { exit := exitAfter (c.run (Document.load fs) paths)
        stdout := format.render { colours, showSuppressed := request.showSuppressed } request.path
          (c.run (Document.load fs) paths) } := by
  have houtcome := (outcomeAt_eq_ok_iff fs config c request.path _).mpr ⟨paths, h.examined, rfl⟩
  simp only [runCheck, h.known_format, h.loaded_config, h.usable_config, houtcome]

theorem reportsOn_of_stdout (h : (runCheck fs colours request).stdout ≠ "") :
    ∃ format config c paths, ReportsOn fs request format config c paths := by
  unfold runCheck at h
  cases hformat : ReportFormat.ofText? request.format with
  | none => simp [hformat, Result.error] at h
  | some format =>
  cases hconfig : loadConfig fs request.config with
  | error e => simp [hformat, hconfig, Result.error] at h
  | ok config =>
  cases hchecker : Checker.ofConfig config with
  | error e => simp [hformat, hconfig, hchecker, Result.error] at h
  | ok c =>
  cases houtcome : outcomeAt fs config c request.path with
  | error why => cases why <;> simp [hformat, hconfig, hchecker, houtcome, Result.error] at h
  | ok o =>
    obtain ⟨paths, hpaths, -⟩ := (outcomeAt_eq_ok_iff ..).mp houtcome
    exact ⟨format, config, c, paths, hformat, hconfig, hchecker, hpaths⟩

end

/-- **The verdict on a request.** Something is printed exactly for the requests that have all that a
report needs, and then it is the report in the format asked for. The exit code is one exactly when
the JSON report has not passed, exactly when the SARIF report has a result of level error, exactly
when the issue is reported as an error and a lambda that is checked and not suppressed misses a
group. Else it is zero, in particular with any other severity, and when all lambdas that miss a
group are suppressed. -/
theorem runCheck_verdict (fs : FileSystem) (colours : Bool) (request : CheckRequest) :
    ((runCheck fs colours request).stdout ≠ "" ↔
      ∃ format config c paths, ReportsOn fs request format config c paths) ∧
    ∀ format config c paths, ReportsOn fs request format config c paths →
      let result := runCheck fs colours request
      let o := c.run (Document.load fs) paths
      result.stdout =
        format.render { colours, showSuppressed := request.showSuppressed } request.path o ∧
      (result.exit = 1 ↔ (Report.ofOutcome request.path o).passed = false) ∧
      (result.exit = 1 ↔
        ∃ run ∈ (Sarif.Log.ofOutcome o).runs, ∃ r ∈ run.results, r.level = "error") ∧
      (result.exit = 1 ↔
        config.isDisabled Issue.mandatory.id = false ∧ config.severity.getD .error = .error ∧
          ∃ e ∈ loaded (Document.load fs) paths, ∃ l ∈ e.2.lambdas, l.Fails c e) ∧
      (result.exit = 1 ∨ result.exit = 0) ∧
      (config.severity = some .warning ∨ config.severity = some .info → result.exit = 0) ∧
      ((∀ e ∈ loaded (Document.load fs) paths, ∀ l ∈ e.2.lambdas,
        l.Checked c e.2.classes e.1 → l.Covered) → result.exit = 0) := by
  refine ⟨⟨reportsOn_of_stdout colours, ?_⟩, ?_⟩
  · rintro ⟨format, config, c, paths, h⟩
    rw [runCheck_of_reportsOn colours h]
    exact format.render_ne_empty _ _ _
  · intro format config c paths h
    have herrors := c.hasErrors_run_of_config h.usable_config (Document.load fs) paths
    rw [runCheck_of_reportsOn colours h]
    dsimp only
    rw [Report.not_passed_iff, Sarif.exists_error_iff, ← herrors, exitAfter_eq_one_iff,
      exitAfter_eq_zero_iff]
    refine ⟨rfl, Iff.rfl, Iff.rfl, Iff.rfl, Decidable.em _, ?_, ?_⟩
    · rintro hseverity hfailed
      obtain ⟨-, herror, -⟩ := herrors.mp hfailed
      rcases hseverity with h | h <;> rw [h] at herror <;> cases herror
    · intro hcovered hfailed
      obtain ⟨-, -, e, he, l, hl, hchecked, hfree, -⟩ := herrors.mp hfailed
      exact hfree (hcovered e he l hl hchecked)

/-- A file with a lambda that does not set the port of its receiver. -/
def portless : FileSystem := FileSystem.empty.add "facts.json" (.file
  ("\x7b\"classes\":[\x7b\"name\":\"Server\"," ++
    "\"annotations\":[\x7b\"name\":\"com.hananrh.dslint.annotations.DSLint\"\x7d]," ++
    "\"methods\":[\x7b\"name\":\"setPort\",\"annotations\":" ++
    "[\x7b\"name\":\"com.hananrh.dslint.annotations.DSLMandatory\"\x7d]\x7d]\x7d]," ++
    "\"lambdas\":[\x7b\"receiver\":\"Server\"\x7d]\x7d").toUTF8)

theorem runCheck_verdict_portless :
    ∃ c, ReportsOn portless { path := "facts.json" } .pretty {} c ["facts.json"] ∧
      (runCheck portless false { path := "facts.json" }).exit = 1 := by
  let c : Checker := ⟨⟨.ofPackage defaultPackage, .bean, .error⟩, ⟨[]⟩, true⟩
  obtain ⟨entry, hentry, hfile⟩ :
      ∃ entry, portless.entry "facts.json" = .ok entry ∧ entry.isDirectory = false := ⟨_, rfl, rfl⟩
  have hfails : ∃ e ∈ loaded (Document.load portless) ["facts.json"],
      ∃ l ∈ e.2.lambdas, l.Fails c e := by
    unfold Lambda.Fails
    decide +kernel
  have hnoconfig : Config.discover? portless "." = none := by decide +kernel
  have hreports : ReportsOn portless { path := "facts.json" } .pretty {} c ["facts.json"] := by
    refine ⟨rfl, by simp [loadConfig, hnoconfig], rfl, ?_⟩
    cases hload : Document.load portless "facts.json" with
    | error why => simp [loaded, hload, Except.toOption] at hfails
    | ok d => exact .document entry d hentry hfile hload
  obtain ⟨-, -, -, hfailed, -⟩ := (runCheck_verdict portless false { path := "facts.json" }).2
    .pretty {} c ["facts.json"] hreports
  exact ⟨c, hreports, hfailed.mpr ⟨rfl, rfl, hfails⟩⟩

end CommandLine
end BuilderLint
