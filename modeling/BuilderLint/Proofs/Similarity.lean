import BuilderLint.Proofs.Documents
import BuilderLint.Proofs.Resolution
import Mathlib.Data.Option.Basic

/-! Classes that the checks cannot tell apart.

The checks see of a class its name, whether it has the root mark, the name that it
extends, what its marked methods require, and those of its supertypes that stand for a
class (`Alike`). Two lists of classes agree on a set of names when these stand for
classes that are alike, and the classes name no others (`Agree`). Then the walk through
the supertypes, the search for a root and the outcome of a lambda on such a name are
the same in both lists (`checkLambda_of_agree`). -/
namespace BuilderLint

/-! ### What methods require -/

/-- The requirements of the marked methods, each with the name of its method. -/
def Requirement.marked (names : MarkNames) (naming : Naming) (methods : List MethodDecl) :
    List (String × Requirement) :=
  methods.filterMap fun m => (ofMethod? names naming m).map fun r => (m.name, r)

/-- Marked methods with the same requirements in the same order are checked for the same. -/
theorem Detector.check_congr (d : Detector) {methods methods' : List MethodDecl}
    (h : Requirement.marked d.names d.naming methods' =
      Requirement.marked d.names d.naming methods) (lambda : LambdaBody) :
    d.check lambda methods' = d.check lambda methods := by
  have hmethods : Requirement.byMethod d.names d.naming methods' =
      Requirement.byMethod d.names d.naming methods :=
    congrArg OrderedMap.firstOfEach h
  have hdiscover : d.discover methods' = d.discover methods := by
    unfold discover Requirement.ofMethods
    rw [hmethods]
  unfold check reported
  rw [hdiscover]

namespace ClassDecl

/-! ### Supertypes that stand for no class -/

/-- Whether the name stands for a class. -/
def isKnown (classes : List ClassDecl) (name : String) : Bool := (find? classes name).isSome

theorem nextUnseen?_filter (classes seen : List ClassDecl) (pending : List String) :
    nextUnseen? classes seen (pending.filter (isKnown classes)) =
      (nextUnseen? classes seen pending).map fun p => (p.1, p.2.filter (isKnown classes)) := by
  induction pending with
  | nil => rfl
  | cons name rest ih =>
    cases hname : find? classes name with
    | none =>
      have hunknown : ¬isKnown classes name = true := by simp [isKnown, hname]
      rw [List.filter_cons_of_neg hunknown, ih]
      simp only [nextUnseen?, hname]
    | some c =>
      have hknown : isKnown classes name = true := by simp [isKnown, hname]
      rw [List.filter_cons_of_pos hknown]
      simp only [nextUnseen?, hname]
      split
      · exact ih
      · rfl

/-- Names that stand for no class are passed over. -/
theorem walk_filter (classes : List ClassDecl) (n : Nat) (seen : List ClassDecl)
    (pending : List String) :
    walk classes n seen (pending.filter (isKnown classes)) = walk classes n seen pending := by
  induction n generalizing seen pending with
  | zero => rfl
  | succ n ih =>
    rw [walk, walk, nextUnseen?_filter]
    cases nextUnseen? classes seen pending with
    | none => rfl
    | some next =>
      show walk classes n (seen ++ [next.1])
          (next.1.supertypes ++ next.2.filter (isKnown classes)) =
        walk classes n (seen ++ [next.1]) (next.1.supertypes ++ next.2)
      rw [← ih, ← ih _ (next.1.supertypes ++ next.2), List.filter_append, List.filter_append,
        List.filter_filter]
      simp only [Bool.and_self]

/-! ### Alike classes -/

/-- The name of the class that this one extends, whether there is one or not. -/
def extensionName? (names : MarkNames) (c : ClassDecl) : Option String :=
  (Mark.find? c.marks names.extension).bind fun mark => mark.text? extensionForAttribute

theorem extended?_eq (names : MarkNames) (classes : List ClassDecl) (c : ClassDecl) :
    extended? names classes c = (c.extensionName? names).bind (find? classes) := by
  rw [extensionName?, Option.bind_assoc]
  rfl

/-- The checks cannot tell the second class, among the given ones, from the first. -/
structure Alike (d : Detector) (classes : List ClassDecl) (c c' : ClassDecl) : Prop where
  name : c'.name = c.name
  root : c'.isMarked d.names.root = c.isMarked d.names.root
  extension : c'.extensionName? d.names = c.extensionName? d.names
  supertypes : c'.supertypes.filter (isKnown classes) = c.supertypes.filter (isKnown classes)
  requirements : Requirement.marked d.names d.naming c'.methods =
    Requirement.marked d.names d.naming c.methods

theorem Alike.refl (d : Detector) (classes : List ClassDecl) (c : ClassDecl) :
    Alike d classes c c :=
  ⟨rfl, rfl, rfl, rfl, rfl⟩

/-- The names stand for classes that are alike in both lists, and name no further ones. -/
structure Agree (d : Detector) (live : String → Prop) (classes classes' : List ClassDecl) :
    Prop where
  found : ∀ name, live name →
    Option.Rel (Alike d classes') (find? classes name) (find? classes' name)
  supertypes : ∀ name c, live name → find? classes name = some c → ∀ s ∈ c.supertypes, live s
  extension : ∀ name c, live name → find? classes name = some c →
    ∀ t, c.extensionName? d.names = some t → live t

namespace Agree
variable {d : Detector} {live : String → Prop} {classes classes' : List ClassDecl}
  (h : Agree d live classes classes')
include h

theorem find?_eq_none {name : String} (hname : live name)
    (hnone : find? classes name = none) : find? classes' name = none := by
  have hfound := h.found name hname
  rw [hnone] at hfound
  generalize find? classes' name = x' at hfound ⊢
  cases hfound
  rfl

theorem exists_alike {name : String} {c : ClassDecl} (hname : live name)
    (hc : find? classes name = some c) :
    ∃ c', find? classes' name = some c' ∧ Alike d classes' c c' := by
  have hfound := h.found name hname
  rw [hc] at hfound
  generalize find? classes' name = x' at hfound ⊢
  cases hfound with
  | some halike => exact ⟨_, rfl, halike⟩

/-! ### The walks -/

/-- Both walks come to classes that are alike, with the same names behind them. -/
theorem nextUnseen? {seen seen' : List ClassDecl}
    (hseen : List.Forall₂ (Alike d classes') seen seen') {pending : List String}
    (hpending : ∀ name ∈ pending, live name) :
    Option.Rel (fun p p' => Alike d classes' p.1 p'.1 ∧ p'.2 = p.2)
      (ClassDecl.nextUnseen? classes seen pending)
      (ClassDecl.nextUnseen? classes' seen' pending) := by
  have hany : ∀ name, (seen'.any fun c => c.name == name) = seen.any fun c => c.name == name := by
    intro name
    induction hseen with
    | nil => rfl
    | cons hc _ ih => rw [List.any_cons, List.any_cons, ih, hc.name]
  induction pending with
  | nil => exact .none
  | cons name rest ih =>
    have hrest := ih fun n hn => hpending n (List.mem_cons_of_mem _ hn)
    have hfound := h.found name (hpending name (List.mem_cons_self ..))
    rw [ClassDecl.nextUnseen?, ClassDecl.nextUnseen?]
    generalize find? classes name = x, find? classes' name = x' at hfound
    cases hfound with
    | none => exact hrest
    | @some c c' hc =>
      simp only [hany, hc.name]
      split
      · exact hrest
      · exact .some ⟨hc, rfl⟩

theorem walk (n : Nat) {seen seen' : List ClassDecl}
    (hseen : List.Forall₂ (Alike d classes') seen seen') {pending : List String}
    (hpending : ∀ name ∈ pending, live name) :
    List.Forall₂ (Alike d classes') (ClassDecl.walk classes n seen pending)
      (ClassDecl.walk classes' n seen' pending) := by
  induction n generalizing seen seen' pending with
  | zero => exact hseen
  | succ n ih =>
    have hnext := h.nextUnseen? hseen hpending
    rw [ClassDecl.walk, ClassDecl.walk]
    generalize hleft : ClassDecl.nextUnseen? classes seen pending = next,
      ClassDecl.nextUnseen? classes' seen' pending = next' at hnext
    cases hnext with
    | none => exact hseen
    | @some p p' hboth =>
      obtain ⟨c, rest⟩ := p
      obtain ⟨c', rest'⟩ := p'
      obtain ⟨hc, hrest⟩ : Alike d classes' c c' ∧ rest' = rest := hboth
      subst hrest
      obtain ⟨skipped, name, rfl, hfind, -, -⟩ := nextUnseen?_eq_some hleft
      -- the supertypes may differ in names that stand for no class
      have hsame : ClassDecl.walk classes' n (seen' ++ [c']) (c'.supertypes ++ rest') =
          ClassDecl.walk classes' n (seen' ++ [c']) (c.supertypes ++ rest') := by
        rw [← walk_filter, ← walk_filter _ _ _ (c.supertypes ++ rest'), List.filter_append,
          List.filter_append, hc.supertypes]
      show List.Forall₂ _ (ClassDecl.walk classes n (seen ++ [c]) (c.supertypes ++ rest'))
        (ClassDecl.walk classes' n (seen' ++ [c']) (c'.supertypes ++ rest'))
      rw [hsame]
      refine ih (List.rel_append hseen (.cons hc .nil)) fun m hm => ?_
      rcases List.mem_append.mp hm with hm | hm
      · exact h.supertypes name c (hpending name (by simp)) hfind m hm
      · exact hpending m (by simp [hm])

theorem lineage {name : String} (hname : live name) :
    List.Forall₂ (Alike d classes') (ClassDecl.lineage classes name)
      (ClassDecl.lineage classes' name) := by
  rw [← walk_eq_lineage name (max classes.length classes'.length) (le_max_left ..),
    ← walk_eq_lineage name (max classes.length classes'.length) (le_max_right ..)]
  exact h.walk _ .nil fun n hn => List.mem_singleton.mp hn ▸ hname

/-! ### The search for a root -/

theorem meetsRoot (n : Nat) {c c' : ClassDecl} (hc : Alike d classes' c c')
    (hextension : ∀ t, c.extensionName? d.names = some t → live t) :
    ClassDecl.meetsRoot d.names classes' n c' = ClassDecl.meetsRoot d.names classes n c := by
  induction n generalizing c c' with
  | zero => exact hc.root
  | succ n ih =>
    rw [ClassDecl.meetsRoot, ClassDecl.meetsRoot, hc.root, extended?_eq, extended?_eq,
      hc.extension]
    cases ht : c.extensionName? d.names with
    | none => rfl
    | some t =>
      have hlive := hextension t ht
      rw [Option.bind_some, Option.bind_some]
      cases hp : find? classes t with
      | none => rw [h.find?_eq_none hlive hp]
      | some p =>
        obtain ⟨p', hp', halike⟩ := h.exists_alike hlive hp
        rw [hp']
        exact congrArg _ (ih halike (h.extension t p hlive hp))

theorem isRoot {name : String} (hname : live name) :
    ClassDecl.isRoot d.names classes' name = ClassDecl.isRoot d.names classes name := by
  unfold ClassDecl.isRoot
  cases hc : find? classes name with
  | none => rw [h.find?_eq_none hname hc]
  | some c =>
    obtain ⟨c', hc', halike⟩ := h.exists_alike hname hc
    rw [hc']
    show ClassDecl.meetsRoot d.names classes' classes'.length c' =
      ClassDecl.meetsRoot d.names classes classes.length c
    -- both searches may go on for as many extensions as the longer list has classes
    rw [← meetsRoot_of_length_le _ _ (mem_of_find? hc) (le_max_left _ classes'.length),
      ← meetsRoot_of_length_le _ _ (mem_of_find? hc') (le_max_right classes.length _)]
    exact h.meetsRoot _ halike (h.extension name c hname hc)

/-! ### The outcome -/

theorem marked_lineage {name : String} (hname : live name) :
    Requirement.marked d.names d.naming
        ((ClassDecl.lineage classes' name).flatMap ClassDecl.methods) =
      Requirement.marked d.names d.naming
        ((ClassDecl.lineage classes name).flatMap ClassDecl.methods) := by
  unfold Requirement.marked
  rw [List.filterMap_flatMap, List.filterMap_flatMap]
  have hlineage := h.lineage hname
  generalize ClassDecl.lineage classes name = l, ClassDecl.lineage classes' name = l' at hlineage
  induction hlineage with
  | nil => rfl
  | cons hc _ ih =>
    rw [List.flatMap_cons, List.flatMap_cons, ih]
    exact congrArg (· ++ _) hc.requirements

end Agree

end ClassDecl

/-- A lambda whose receiver is one of the names has the same outcome in both lists. -/
theorem Checker.checkLambda_of_agree (c : Checker) {live : String → Prop}
    {classes classes' : List ClassDecl} (h : ClassDecl.Agree c.detector live classes classes')
    (fallback : String) {l : Lambda} (hl : live l.receiver) :
    c.checkLambda classes' fallback l = c.checkLambda classes fallback l := by
  have hroot : c.isRoot classes' l.receiver = c.isRoot classes l.receiver := h.isRoot hl
  unfold checkLambda ClassDecl.resolve?
  rw [hroot]
  cases hstart : ClassDecl.find? classes l.receiver with
  | none =>
    rw [h.find?_eq_none hl hstart]
    rfl
  | some start =>
    obtain ⟨start', hstart', -⟩ := h.exists_alike hl hstart
    rw [hstart']
    simp only [Option.map_some, c.detector.check_congr (h.marked_lineage hl)]

end BuilderLint
