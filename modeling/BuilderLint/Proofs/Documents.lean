import BuilderLint.Checker
import BuilderLint.Proofs.Overriding
import BuilderLint.Proofs.Reporting
import BuilderLint.Proofs.Roots
import Mathlib.Data.UInt

/-! What a whole document is reported for.

The lambdas to look at are those in files that are not excluded whose receiver
extends to a class with the root mark. The outcome of a document appends what each of
these emits, to the diagnostics or to the suppressed ones. Every marked method that
the receiver declares or inherits is accounted for: its group is used or reported
once, and nothing else is reported (`checkDocument_accounts`). -/
namespace BuilderLint
open Relation (ReflTransGen)

/-! ### Outcomes of lists -/

/-- Merging one by one appends all, and adds up the counts. -/
theorem Outcome.foldl_merge {α : Type} (f : α → Outcome) (l : List α) (o : Outcome) :
    l.foldl (fun o a => o.merge (f a)) o =
      { diagnostics := o.diagnostics ++ l.flatMap fun a => (f a).diagnostics
        suppressed := o.suppressed ++ l.flatMap fun a => (f a).suppressed
        scanned := o.scanned + (l.map fun a => (f a).scanned).sum
        visited := o.visited + (l.map fun a => (f a).visited).sum } := by
  induction l generalizing o with
  | nil => simp
  | cons a rest ih =>
    rw [List.foldl_cons, ih]
    simp [Outcome.merge, UInt64.add_assoc]

/-- Diagnostics of one issue are suppressed together or not at all. -/
theorem splitSuppressed_of_issue {suppress : List String} {issue : String}
    {found : List Diagnostic} (h : ∀ x ∈ found, x.issue = issue) :
    splitSuppressed suppress found =
      if isSuppressed suppress issue then ([], found) else (found, []) := by
  have hsame : ∀ x ∈ found, isSuppressed suppress x.issue = isSuppressed suppress issue :=
    fun x hx => by rw [h x hx]
  rw [splitSuppressed, List.partition_eq_filter_filter]
  cases hsup : isSuppressed suppress issue with
  | true =>
    rw [if_pos rfl, List.filter_eq_nil_iff.mpr fun x hx => by simp [hsame x hx, hsup],
      List.filter_eq_self.mpr fun x hx => by simp [hsame x hx, hsup]]
  | false =>
    rw [List.filter_eq_self.mpr fun x hx => by simp [hsame x hx, hsup],
      List.filter_eq_nil_iff.mpr fun x hx => by simp [hsame x hx, hsup]]
    rfl

/-! ### Accounting for the marked methods -/

namespace Detector
variable (d : Detector)

/-- The groups of the class of a name, inherited methods included. -/
def groupsOf (classes : List ClassDecl) (name : String) : Groups :=
  d.discover ((ClassDecl.lineage classes name).flatMap ClassDecl.methods)

/-- What a lambda on a receiver class is reported for, measured by the marked methods that the class
declares or inherits. -/
structure Accounts (classes : List ClassDecl) (l : Lambda) (start : ClassDecl)
    (reported : List (String × List Requirement)) : Prop where
  receiver : ClassDecl.find? classes l.receiver = some start
  /-- The group of a marked method is used, or else reported once. -/
  used_or_reported : ∀ m b, ReflTransGen (ClassDecl.InheritsFrom classes) start b →
    b.Marks d.names m → ∃ r, d.requirement? classes l.receiver m = some r ∧
      ∃ g ∈ (d.groupsOf classes l.receiver).entries, g.1 = r.key ∧ r ∈ g.2 ∧
        ((∃ s ∈ l.statements, (d.groupsOf classes l.receiver).Resolves s g) ∧ g ∉ reported ∨
          (∀ s ∈ l.statements, ¬(d.groupsOf classes l.receiver).Resolves s g) ∧
            reported.count g = 1)
  /-- Groups are reported in the order of discovery. -/
  in_order : reported.Sublist (d.groupsOf classes l.receiver).entries
  /-- Every reported group has members, and they are required by marked methods. -/
  marked : ∀ g ∈ reported, g.2 ≠ [] ∧ ∀ r ∈ g.2, ∃ m b,
    ReflTransGen (ClassDecl.InheritsFrom classes) start b ∧ b.Marks d.names m ∧
      d.requirement? classes l.receiver m = some r

theorem accounts_reported {classes : List ClassDecl} {l : Lambda} {start : ClassDecl}
    (hstart : ClassDecl.find? classes l.receiver = some start) :
    d.Accounts classes l start (d.reported l.statements
      ((ClassDecl.lineage classes l.receiver).flatMap ClassDecl.methods)) where
  receiver := hstart
  used_or_reported := by
    intro m b hreach hmarks
    obtain ⟨r, hr⟩ := d.exists_requirement hstart hreach hmarks
    refine ⟨r, hr, ?_⟩
    rw [d.requirement?_eq hstart] at hr
    obtain ⟨g, hg, hkey, hmem⟩ := Groups.exists_group _
      ((Requirement.mem_ofMethods_iff d.names d.naming _ r).mpr ⟨m, hr⟩)
    refine ⟨g, hg, hkey, hmem, ?_⟩
    by_cases huse : ∃ s ∈ l.statements, (d.groupsOf classes l.receiver).Resolves s g
    · obtain ⟨s, hs, hres⟩ := huse
      refine .inl ⟨⟨s, hs, hres⟩, fun hreported => ?_⟩
      exact ((d.mem_reported ..).mp hreported).2 s hs hres
    · have hfree : ∀ s ∈ l.statements, ¬(d.groupsOf classes l.receiver).Resolves s g :=
        fun s hs hres => huse ⟨s, hs, hres⟩
      refine .inr ⟨hfree, List.count_eq_one_of_mem (d.nodup_reported ..) ?_⟩
      exact (d.mem_reported ..).mpr ⟨hg, hfree⟩
  in_order := by
    rw [reported_eq_filter]
    exact List.filter_sublist
  marked := by
    intro g hg
    have hentry := ((d.mem_reported ..).mp hg).1
    refine ⟨Groups.ne_nil_of_mem_entries _ hentry, fun r hr => ?_⟩
    obtain ⟨m, hm⟩ := (d.mem_discover_iff _ r).mp ⟨g, hentry, hr⟩
    rw [← d.requirement?_eq hstart] at hm
    obtain ⟨b, hreach, hmarks⟩ := d.exists_marks hstart hm
    exact ⟨m, b, hreach, hmarks, hm⟩

end Detector

/-! ### Lambdas and documents -/

/-- The file is not excluded, and extensions lead from the receiver to a class with the root mark. -/
def Lambda.Checked (c : Checker) (classes : List ClassDecl) (fallback : String) (l : Lambda) :
    Prop :=
  c.excluded.isMatch (l.fileOr fallback) = false ∧
    ∃ start, ClassDecl.find? classes l.receiver = some start ∧
      ∃ r, ReflTransGen (ClassDecl.Extends c.detector.names classes) start r ∧
        r.isMarked c.detector.names.root = true

namespace Checker
variable (c : Checker) (classes : List ClassDecl) (fallback : String) (l : Lambda)

theorem checked_iff :
    l.Checked c classes fallback ↔
      (c.excluded.isMatch (l.fileOr fallback) || !c.isRoot classes l.receiver) = false := by
  rw [Bool.or_eq_false_iff, Bool.not_eq_false', isRoot, ClassDecl.isRoot_iff]
  rfl

instance : Decidable (l.Checked c classes fallback) :=
  decidable_of_iff _ (checked_iff c classes fallback l).symm

/-- The groups that a lambda is reported for. -/
def reported : List (String × List Requirement) :=
  c.detector.reported l.statements
    ((ClassDecl.lineage classes l.receiver).flatMap ClassDecl.methods)

/-- One diagnostic for each of them. -/
def emitted : List Diagnostic :=
  (c.reported classes l).map fun g =>
    c.detector.diagnostic ⟨l.fileOr fallback, l.span, l.statements⟩ g.1 g.2

theorem checkLambda_of_checked (h : l.Checked c classes fallback) :
    c.checkLambda classes fallback l =
      { diagnostics := if isSuppressed l.suppress Issue.mandatory.id then []
          else c.emitted classes fallback l
        suppressed := if isSuppressed l.suppress Issue.mandatory.id then
          c.emitted classes fallback l else []
        visited := 1 } := by
  have hfree := (checked_iff c classes fallback l).mp h
  obtain ⟨-, start, hstart, -⟩ := h
  have hissue : ∀ x ∈ c.emitted classes fallback l, x.issue = Issue.mandatory.id := by
    intro x hx
    obtain ⟨g, -, rfl⟩ := List.mem_map.mp hx
    rfl
  have hsplit : splitSuppressed l.suppress (c.detector.check
      ⟨l.fileOr fallback, l.span, l.statements⟩
      ((ClassDecl.lineage classes l.receiver).flatMap ClassDecl.methods)) = _ :=
    splitSuppressed_of_issue hissue
  simp only [checkLambda, hfree, Bool.false_eq_true, if_false, ClassDecl.resolve?, hstart,
    Option.map_some, hsplit]
  cases isSuppressed l.suppress Issue.mandatory.id <;> rfl

theorem checkLambda_of_not_checked (h : ¬l.Checked c classes fallback) :
    c.checkLambda classes fallback l = {} := by
  rw [checked_iff, Bool.not_eq_false] at h
  simp only [checkLambda, h, if_true]

/-- What lambdas that are checked emit, apart by what their lists suppress, and how many they are. -/
def outcomeOf (checked : List Lambda) : Outcome where
  diagnostics := (checked.filter fun l => !isSuppressed l.suppress Issue.mandatory.id).flatMap
    (c.emitted classes fallback)
  suppressed := (checked.filter fun l => isSuppressed l.suppress Issue.mandatory.id).flatMap
    (c.emitted classes fallback)
  visited := .ofNat checked.length

theorem foldl_checkLambda (ls : List Lambda) :
    ls.foldl (fun o l => o.merge (c.checkLambda classes fallback l)) ({} : Outcome) =
      c.outcomeOf classes fallback (ls.filter fun l => l.Checked c classes fallback) := by
  rw [Outcome.foldl_merge]
  induction ls with
  | nil => rfl
  | cons l rest ih =>
    simp only [outcomeOf, Outcome.mk.injEq, List.nil_append, UInt64.zero_add] at ih ⊢
    obtain ⟨hdiagnostics, hsuppressed, hscanned, hvisited⟩ := ih
    simp only [List.flatMap_cons, List.map_cons, List.sum_cons, hdiagnostics, hsuppressed,
      hscanned, hvisited]
    by_cases h : l.Checked c classes fallback
    · rw [checkLambda_of_checked c classes fallback l h, List.filter_cons_of_pos (by simpa using h)]
      refine ⟨?_, ?_, rfl, ?_⟩
      · cases hsup : isSuppressed l.suppress Issue.mandatory.id <;> simp [hsup]
      · cases hsup : isSuppressed l.suppress Issue.mandatory.id <;> simp [hsup]
      · rw [List.length_cons, UInt64.ofNat_add, UInt64.add_comm]
        rfl
    · rw [checkLambda_of_not_checked c classes fallback l h,
        List.filter_cons_of_neg (by simpa using h)]
      exact ⟨rfl, rfl, rfl, UInt64.zero_add _⟩

/-- What an accepted configuration is made into. -/
theorem ofConfig_eq_ok {config : Config} {c : Checker} (h : ofConfig config = .ok c) :
    config.excluded = .ok c.excluded ∧
      c.detector = ⟨config.markNames, .bean, config.severity.getD Issue.mandatory.severity⟩ ∧
      c.enabled = !config.isDisabled Issue.mandatory.id := by
  rw [ofConfig] at h
  cases hvalid : config.validate with
  | error e => simp [hvalid, bind, Except.bind] at h
  | ok _ =>
    cases hexcluded : config.excluded with
    | error e => simp [hvalid, hexcluded, bind, Except.bind] at h
    | ok excluded =>
      simp only [hvalid, hexcluded, bind, Except.bind, pure, Except.pure, Except.ok.injEq] at h
      subst h
      exact ⟨rfl, rfl, rfl⟩

/-- **What a document is reported for.** Under a configuration that can be used and does not disable
the issue, the checked lambdas are those in files that are not excluded whose receiver extends to a
class with the root mark. The outcome counts them and appends what they emit, to the suppressed ones
when their list covers the issue. What each emits accounts for all marked methods that its receiver
declares or inherits. -/
theorem checkDocument_accounts {config : Config} {c : Checker} (hconfig : ofConfig config = .ok c)
    (henabled : config.isDisabled Issue.mandatory.id = false) (d : Document) (fallback : String) :
    (config.excluded = .ok c.excluded ∧
      c.detector = ⟨config.markNames, .bean, config.severity.getD Issue.mandatory.severity⟩) ∧
    c.checkDocument d fallback = c.outcomeOf d.classes fallback
      (d.lambdas.filter fun l => l.Checked c d.classes fallback) ∧
    ∀ l ∈ d.lambdas, l.Checked c d.classes fallback →
      ∃ start, c.detector.Accounts d.classes l start (c.reported d.classes l) := by
  obtain ⟨hexcluded, hdetector, hon⟩ := ofConfig_eq_ok hconfig
  rw [henabled, Bool.not_false] at hon
  refine ⟨⟨hexcluded, hdetector⟩, ?_, ?_⟩
  · rw [checkDocument, if_pos hon]
    exact c.foldl_checkLambda d.classes fallback d.lambdas
  · intro l _ hchecked
    obtain ⟨-, start, hstart, -⟩ := hchecked
    exact ⟨start, c.detector.accounts_reported hstart⟩

/-- The first receiver extends a root, the second is only inherited by one, and the last is unknown. -/
def threeReceivers : Document where
  classes :=
    [{ name := "Base", methods := [.grouped (.ofPackage defaultPackage) "setRetries" "limits"] },
      { name := "Server", supertypes := ["Base"],
        marks := [{ name := MarkKind.root.qualifiedName defaultPackage }] },
      { name := "Tls", supertypes := ["Server"],
        marks := [{ name := MarkKind.extension.qualifiedName defaultPackage,
                    attributes := .ofList [(extensionForAttribute, .string "Server")] }] }]
  lambdas := [{ receiver := "Tls" }, { receiver := "Base" }, { receiver := "Client" }]

theorem checkDocument_accounts_threeReceivers :
    ∃ c, ofConfig { severity := some .warning } = .ok c ∧
      ({ severity := some .warning } : Config).isDisabled Issue.mandatory.id = false ∧
      (c.checkDocument threeReceivers "facts.yaml").visited = 1 ∧
      ∃ start, c.detector.Accounts threeReceivers.classes { receiver := "Tls" } start
        (c.reported threeReceivers.classes { receiver := "Tls" }) := by
  let c : Checker := ⟨⟨.ofPackage defaultPackage, .bean, .warning⟩, ⟨[]⟩, true⟩
  have hconfig : ofConfig { severity := some .warning } = .ok c := rfl
  have henabled : ({ severity := some .warning } : Config).isDisabled Issue.mandatory.id = false :=
    rfl
  obtain ⟨-, houtcome, haccounts⟩ :=
    checkDocument_accounts hconfig henabled threeReceivers "facts.yaml"
  refine ⟨c, hconfig, henabled, ?_, haccounts { receiver := "Tls" } (by simp [threeReceivers]) ?_⟩
  · have hone : (threeReceivers.lambdas.filter fun l =>
        l.Checked c threeReceivers.classes "facts.yaml").length = 1 := by decide
    rw [houtcome, outcomeOf, hone]
    rfl
  · rw [checked_iff]
    decide

end Checker

end BuilderLint
