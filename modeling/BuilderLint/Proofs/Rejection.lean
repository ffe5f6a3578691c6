import BuilderLint.Proofs.Exclusion
import BuilderLint.Proofs.Verdicts

/-! Which configurations cannot be used.

Texts that are to be patterns are looked at in order, and the first that is none is
reported. A configuration is looked at as a whole before anything is checked: first its
package, then the patterns of excluded files, then those of documents. When nothing is
wrong, every set of its patterns can be made again, so no error of the configuration
turns up later (`ofConfig_rejects`). -/
namespace BuilderLint

/-! ### The first text that is no pattern -/

/-- The first of the texts that is no pattern, with the reason. -/
def Glob.FirstInvalid (texts : List String) (why : Glob.Invalid) : Prop :=
  ∃ before after, texts = before ++ why.pattern :: after ∧
    (∀ text ∈ before, ∃ p, Glob.Pattern.ofText text = .ok p) ∧
    Glob.Pattern.ofText why.pattern = .error why.error

namespace Glob.PatternSet

theorem ofTexts_cons_eq_error_iff (text : String) (rest : List String) (why : Invalid) :
    ofTexts (text :: rest) = .error why ↔
      (∃ e, Pattern.ofText text = .error e ∧ why = ⟨text, e⟩) ∨
        (∃ p, Pattern.ofText text = .ok p) ∧ ofTexts rest = .error why := by
  cases hp : Pattern.ofText text with
  | error e => simp [ofTexts, hp, eq_comm]
  | ok p => cases hrest : ofTexts rest <;> simp [ofTexts, hp, hrest, Except.map]

theorem ofTexts_eq_error_iff (texts : List String) (why : Invalid) :
    ofTexts texts = .error why ↔ FirstInvalid texts why := by
  induction texts with
  | nil => simp [ofTexts, FirstInvalid]
  | cons text rest ih =>
    rw [ofTexts_cons_eq_error_iff, ih]
    constructor
    · rintro (⟨e, he, rfl⟩ | ⟨hp, before, after, rfl, hbefore, hwhy⟩)
      · exact ⟨[], rest, rfl, by simp, he⟩
      · exact ⟨text :: before, after, rfl, List.forall_mem_cons.mpr ⟨hp, hbefore⟩, hwhy⟩
    · rintro ⟨before, after, hsplit, hbefore, hwhy⟩
      cases before with
      | nil =>
        obtain ⟨rfl, rfl⟩ := List.cons.inj hsplit
        exact .inl ⟨why.error, hwhy, rfl⟩
      | cons first before =>
        obtain ⟨rfl, rfl⟩ := List.cons.inj hsplit
        obtain ⟨hfirst, hbefore⟩ := List.forall_mem_cons.mp hbefore
        exact .inr ⟨hfirst, before, after, rfl, hbefore, hwhy⟩

/-- Of texts in a row, the latter are only looked at when the former are patterns. -/
theorem ofTexts_append_eq_error_iff (texts more : List String) (why : Invalid) :
    ofTexts (texts ++ more) = .error why ↔
      ofTexts texts = .error why ∨ (∃ set, ofTexts texts = .ok set) ∧ ofTexts more = .error why := by
  induction texts with
  | nil => simp [ofTexts]
  | cons text rest ih =>
    have hset : (∃ set, ofTexts (text :: rest) = .ok set) ↔
        (∃ p, Pattern.ofText text = .ok p) ∧ ∃ set, ofTexts rest = .ok set := by
      rw [exists_ofTexts_iff, exists_ofTexts_iff, List.forall_mem_cons]
    rw [List.cons_append, ofTexts_cons_eq_error_iff, ofTexts_cons_eq_error_iff, ih, hset,
      and_or_left, or_assoc, and_assoc]

theorem exists_error_iff (texts : List String) :
    (∃ why, ofTexts texts = .error why) ↔ ∃ text ∈ texts, ∃ e, Pattern.ofText text = .error e := by
  induction texts with
  | nil => simp [ofTexts]
  | cons text rest ih =>
    rw [List.exists_mem_cons_iff, ← ih]
    simp only [ofTexts_cons_eq_error_iff]
    cases hp : Pattern.ofText text <;> simp

end Glob.PatternSet

/-! ### Looking at a configuration -/

namespace Config
variable (c : Config)

/-- The package that is given has nothing but white space in it. -/
def HasBlankPackage : Prop :=
  ∃ package, c.package = some package ∧ ∀ ch ∈ package.toList, Text.isSpace ch = true

theorem hasBlankPackage_iff : c.HasBlankPackage ↔ c.package.any Text.isBlank = true := by
  unfold HasBlankPackage
  cases c.package <;> simp [Text.isBlank]

theorem patterns_eq_error_iff (texts : List String) (e : ConfigError) :
    patterns texts = .error e ↔
      ∃ why, e = .invalidPattern why ∧ Glob.PatternSet.ofTexts texts = .error why := by
  rw [patterns]
  cases Glob.PatternSet.ofTexts texts with
  | error why => simp [Except.mapError, eq_comm]
  | ok set => simp [Except.mapError]

theorem exists_usual : ∃ usual, patterns defaultIncludes = .ok usual := ⟨_, rfl⟩

theorem included_eq_error_iff (e : ConfigError) :
    c.included = .error e ↔
      ∃ why, e = .invalidPattern why ∧ Glob.PatternSet.ofTexts c.includes = .error why := by
  rw [included]
  cases h : c.includes with
  | nil =>
    obtain ⟨usual, husual⟩ := exists_usual
    simp [husual, Glob.PatternSet.ofTexts]
  | cons first rest => exact patterns_eq_error_iff _ e

theorem validate_of_blank (h : c.HasBlankPackage) : c.validate = .error .emptyPackage := by
  rw [validate, if_pos (c.hasBlankPackage_iff.mp h)]
  rfl

/-- A package that is not blank leaves the patterns to be looked at. -/
theorem validate_of_not_blank (h : ¬c.HasBlankPackage) :
    c.validate = c.excluded.bind fun _ => c.included.map fun _ => () := by
  rw [validate, if_neg fun hany => h (c.hasBlankPackage_iff.mpr hany)]
  cases c.excluded with
  | error e => rfl
  | ok set => cases c.included <;> rfl

theorem validate_eq_error_iff (e : ConfigError) :
    c.validate = .error e ↔
      c.HasBlankPackage ∧ e = .emptyPackage ∨
        ¬c.HasBlankPackage ∧ ∃ why, e = .invalidPattern why ∧
          Glob.PatternSet.ofTexts (c.excludedPaths ++ c.includes) = .error why := by
  by_cases hblank : c.HasBlankPackage
  · simp [c.validate_of_blank hblank, hblank, eq_comm]
  · have hexcluded := patterns_eq_error_iff c.excludedPaths e
    have hincluded := c.included_eq_error_iff e
    simp only [c.validate_of_not_blank hblank, hblank, false_and, false_or, not_false_eq_true,
      true_and, Glob.PatternSet.ofTexts_append_eq_error_iff, ← patterns_eq_ok]
    rw [← excluded] at hexcluded ⊢
    cases hx : c.excluded with
    | error e' =>
      rw [hx] at hexcluded
      simpa [Except.bind] using hexcluded
    | ok set =>
      have hset := patterns_eq_ok.mp hx
      cases hi : c.included <;> simp_all [Except.bind, Except.map]

/-- With nothing wrong, the sets of patterns can be made. -/
theorem validate_eq_ok_iff :
    c.validate = .ok () ↔ ¬c.HasBlankPackage ∧
      (∃ set, c.excluded = .ok set) ∧ ∃ set, c.included = .ok set := by
  by_cases hblank : c.HasBlankPackage
  · simp [c.validate_of_blank hblank, hblank]
  · rw [c.validate_of_not_blank hblank]
    cases c.excluded with
    | error e => simp [Except.bind]
    | ok set => cases c.included <;> simp [Except.bind, Except.map, hblank]

end Config

namespace Checker

/-- Nothing goes wrong after a configuration has been looked at. -/
theorem ofConfig_eq_error_iff (config : Config) (e : ConfigError) :
    ofConfig config = .error e ↔ config.validate = .error e := by
  cases hvalid : config.validate with
  | error e' => simp [ofConfig, hvalid, bind, Except.bind]
  | ok u =>
    obtain ⟨-, ⟨set, hset⟩, -⟩ := config.validate_eq_ok_iff.mp hvalid
    simp [ofConfig, hvalid, hset, bind, Except.bind, pure, Except.pure]

theorem validate_of_ofConfig {config : Config} {c : Checker} (h : ofConfig config = .ok c) :
    config.validate = .ok () := by
  cases hvalid : config.validate with
  | error e =>
    rw [(ofConfig_eq_error_iff config e).mpr hvalid] at h
    cases h
  | ok u => rfl

/-- **Which configurations cannot be used.** A configuration is rejected when its package is blank or
a text among its patterns is none. A blank package is reported whatever the patterns are; else the
first text that is no pattern, the patterns of excluded files before those of documents. Without
patterns of documents the usual ones are taken, which are patterns all. For a configuration that is
not rejected both sets of patterns can be made whenever they are asked for: the one for the checker,
and the one for the documents of a directory, where only collecting the documents can fail. -/
theorem ofConfig_rejects (config : Config) :
    ((∃ e, ofConfig config = .error e) ↔
      config.HasBlankPackage ∨ ∃ text ∈ config.excludedPaths ++ config.includes,
        ∃ e, Glob.Pattern.ofText text = .error e) ∧
    (config.HasBlankPackage → ofConfig config = .error .emptyPackage) ∧
    (¬config.HasBlankPackage → ∀ e, ofConfig config = .error e ↔
      ∃ why, e = .invalidPattern why ∧
        Glob.FirstInvalid (config.excludedPaths ++ config.includes) why) ∧
    (∃ usual, Config.patterns Config.defaultIncludes = .ok usual ∧
      (config.includes = [] → config.included = .ok usual)) ∧
    (∀ e, ofConfig config = .error e ↔ config.validate = .error e) ∧
    ∀ c, ofConfig config = .ok c → config.excluded = .ok c.excluded ∧
      ∃ included, config.included = .ok included ∧
        ∀ fs path entry, fs.entry path = .ok entry → entry.isDirectory = true →
          CommandLine.outcomeAt fs config c path = do
            let paths ← (fs.collect path included).mapError fun e => .failure e.message
            if paths.isEmpty then throw .noDocuments
            return c.run (Document.load fs) paths := by
  have herror : ∀ e, ofConfig config = .error e ↔ _ := fun e =>
    (ofConfig_eq_error_iff config e).trans (config.validate_eq_error_iff e)
  refine ⟨?_, ?_, ?_, ?_, ofConfig_eq_error_iff config, ?_⟩
  · rw [← Glob.PatternSet.exists_error_iff]
    by_cases hblank : config.HasBlankPackage <;> simp [herror, hblank]
  · intro hblank
    exact (herror _).mpr (.inl ⟨hblank, rfl⟩)
  · intro hblank e
    simp only [herror, hblank, false_and, false_or, not_false_eq_true, true_and,
      Glob.PatternSet.ofTexts_eq_error_iff]
  · obtain ⟨usual, husual⟩ := Config.exists_usual
    refine ⟨usual, husual, fun hnone => ?_⟩
    rw [Config.included, hnone]
    exact husual
  · intro c hc
    obtain ⟨-, -, included, hincluded⟩ := config.validate_eq_ok_iff.mp (validate_of_ofConfig hc)
    refine ⟨(ofConfig_eq_ok hc).1, included, hincluded, fun fs path entry hentry hdirectory => ?_⟩
    simp only [CommandLine.outcomeAt, hentry, hdirectory, hincluded, bind, Except.bind,
      Except.mapError, if_true]

/-- Of two texts that are no patterns, one in each list, the excluded one is reported. -/
theorem ofConfig_rejects_twoFaults :
    let sound : Config := { excludedPaths := ["gen/**"] }
    let faulty : Config := { excludedPaths := ["gen/**", "src/[a"], includes := ["a\x7d"] }
    ¬faulty.HasBlankPackage ∧
      ofConfig faulty = .error (.invalidPattern ⟨"src/[a", .unclosedClass⟩) ∧
      ∃ c, ofConfig sound = .ok c ∧ sound.excluded = .ok c.excluded ∧
        ∃ included, sound.included = .ok included := by
  intro sound faulty
  have hblank : ¬faulty.HasBlankPackage := by simp [Config.HasBlankPackage, faulty]
  have hfirst : Glob.FirstInvalid (faulty.excludedPaths ++ faulty.includes)
      ⟨"src/[a", .unclosedClass⟩ :=
    ⟨["gen/**"], ["a\x7d"], rfl, List.forall_mem_singleton.mpr ⟨_, rfl⟩, rfl⟩
  obtain ⟨c, hc⟩ : ∃ c, ofConfig sound = .ok c := ⟨_, rfl⟩
  obtain ⟨-, -, hreported, -⟩ := ofConfig_rejects faulty
  obtain ⟨-, -, -, -, -, haccepted⟩ := ofConfig_rejects sound
  obtain ⟨hexcluded, included, hincluded, -⟩ := haccepted c hc
  exact ⟨hblank, (hreported hblank _).mpr ⟨_, rfl, hfirst⟩, c, hc, hexcluded, included, hincluded⟩

end Checker
end BuilderLint
