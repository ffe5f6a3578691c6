import BuilderLint.Proofs.Discovery
import BuilderLint.Proofs.Inheritance

/-! Marked methods that are declared again.

A method name takes its requirement from the first class of the lineage that marks a
method of that name (`get?_byMethod_flatMap`). Depth first, a class may come before
one that inherits from it, when another branch leads to it earlier; then the
requirement is the inherited one although a more derived class marks the method.
Whatever methods the classes declare, this is ruled out exactly when no class comes
before one that lists it among its supertypes (`override_replaces_iff`). -/
namespace BuilderLint
open Relation (ReflTransGen TransGen)

/-! ### Where a requirement is taken from -/

/-- The class itself declares a marked method of that name. -/
def ClassDecl.Marks (names : MarkNames) (m : String) (c : ClassDecl) : Prop :=
  ∃ x ∈ c.methods, x.isMandatory names = true ∧ x.name = m

namespace Detector
variable (d : Detector)

/-- The requirement that a class makes by its own method of that name. -/
def declared? (m : String) (c : ClassDecl) : Option Requirement :=
  (Requirement.byMethod d.names d.naming c.methods).get? m

/-- The requirement that a method name makes on the class of a name, inherited methods included. -/
def requirement? (classes : List ClassDecl) (name m : String) : Option Requirement :=
  (ClassDecl.resolve? classes name).bind fun c =>
    (Requirement.byMethod d.names d.naming c.methods).get? m

theorem isSome_declared? (m : String) (c : ClassDecl) :
    (d.declared? m c).isSome ↔ c.Marks d.names m :=
  Requirement.get?_byMethod_isSome d.names d.naming c.methods m

/-- The first class with a marked method of a name makes the requirement. -/
theorem get?_byMethod_flatMap (classes : List ClassDecl) (m : String) (r : Requirement) :
    (Requirement.byMethod d.names d.naming (classes.flatMap ClassDecl.methods)).get? m = some r ↔
      ∃ before b after, classes = before ++ b :: after ∧ d.declared? m b = some r ∧
        ∀ c ∈ before, ¬c.Marks d.names m := by
  have hnone : ∀ c : ClassDecl, (c.methods.find? fun x => x.isMandatory d.names && x.name == m) =
      none ↔ ¬c.Marks d.names m := by
    intro c
    rw [List.find?_eq_none]
    simp [ClassDecl.Marks]
  rw [Requirement.get?_byMethod, List.find?_flatMap, Option.bind_eq_some_iff]
  constructor
  · intro h
    obtain ⟨x, hx, hr⟩ := h
    obtain ⟨before, b, after, hsplit, hb, hbefore⟩ := List.findSome?_eq_some_iff.mp hx
    refine ⟨before, b, after, hsplit, ?_, fun c hc => (hnone c).mp (hbefore c hc)⟩
    rw [declared?, Requirement.get?_byMethod, hb, Option.bind_some, hr]
  · intro h
    obtain ⟨before, b, after, hsplit, hb, hbefore⟩ := h
    rw [declared?, Requirement.get?_byMethod, Option.bind_eq_some_iff] at hb
    obtain ⟨x, hx, hr⟩ := hb
    refine ⟨x, List.findSome?_eq_some_iff.mpr ⟨before, b, after, hsplit, hx, ?_⟩, hr⟩
    exact fun c hc => (hnone c).mpr (hbefore c hc)

section
variable {classes : List ClassDecl} {name m : String} {start b : ClassDecl} {r : Requirement}

theorem requirement?_eq (hstart : ClassDecl.find? classes name = some start) (m : String) :
    d.requirement? classes name m =
      (Requirement.byMethod d.names d.naming
        ((ClassDecl.lineage classes name).flatMap ClassDecl.methods)).get? m := by
  rw [requirement?, ClassDecl.resolve?, hstart]
  rfl

theorem requirement?_eq_some_iff (hstart : ClassDecl.find? classes name = some start) (m : String)
    (r : Requirement) :
    d.requirement? classes name m = some r ↔
      ∃ before b after, ClassDecl.lineage classes name = before ++ b :: after ∧
        d.declared? m b = some r ∧ ∀ c ∈ before, ¬c.Marks d.names m := by
  rw [d.requirement?_eq hstart, d.get?_byMethod_flatMap]

/-- A marked method makes a requirement on every class that inherits it. -/
theorem exists_requirement (hstart : ClassDecl.find? classes name = some start)
    (hreach : ReflTransGen (ClassDecl.InheritsFrom classes) start b) (hmarks : b.Marks d.names m) :
    ∃ r, d.requirement? classes name m = some r := by
  obtain ⟨x, hx, hmarked, hname⟩ := hmarks
  rw [← Option.isSome_iff_exists, d.requirement?_eq hstart, Requirement.get?_byMethod_isSome]
  have hb := (ClassDecl.mem_lineage_iff hstart b).mpr hreach
  exact ⟨x, List.mem_flatMap.mpr ⟨b, hb, hx⟩, hmarked, hname⟩

/-- A requirement is made by a marked method of the class or of one it inherits from. -/
theorem exists_marks (hstart : ClassDecl.find? classes name = some start)
    (hr : d.requirement? classes name m = some r) :
    ∃ b, ReflTransGen (ClassDecl.InheritsFrom classes) start b ∧ b.Marks d.names m := by
  obtain ⟨before, b, after, hsplit, hb, -⟩ := (d.requirement?_eq_some_iff hstart m r).mp hr
  refine ⟨b, (ClassDecl.mem_lineage_iff hstart b).mp (by simp [hsplit]), ?_⟩
  rw [← d.isSome_declared?, hb]
  rfl

end

end Detector

/-! ### Inheritance without cycles -/

namespace ClassDecl
variable {classes : List ClassDecl} {name : String} {start b c p : ClassDecl}

/-- No class inherits from itself. -/
def Acyclic (classes : List ClassDecl) : Prop := ∀ c, ¬TransGen (InheritsFrom classes) c c

theorem transGen_known (h : TransGen (InheritsFrom classes) c p) :
    find? classes p.name = some p := by
  cases h with
  | single hstep => exact hstep.known
  | tail _ hstep => exact hstep.known

/-- A rank that falls along every supertype leaves no cycle. -/
theorem acyclic_of_rank (rank : String → Nat)
    (hrank : ∀ c ∈ classes, ∀ s ∈ c.supertypes,
      (find? classes s).all (fun p => decide (rank p.name < rank c.name)) = true) :
    Acyclic classes := by
  have hfalls : ∀ x y, find? classes x.name = some x → TransGen (InheritsFrom classes) x y →
      rank y.name < rank x.name := by
    have hstep : ∀ x y, find? classes x.name = some x → InheritsFrom classes x y →
        rank y.name < rank x.name := by
      intro x y hx hxy
      obtain ⟨s, hs, hy⟩ := hxy
      have := hrank x (mem_of_find? hx) s hs
      simpa [hy] using this
    intro x y hx h
    induction h with
    | single h => exact hstep x _ hx h
    | tail hxy hyz ih => exact Nat.lt_trans (hstep _ _ (transGen_known hxy) hyz) ih
  intro c hc
  exact Nat.lt_irrefl _ (hfalls c c (transGen_known hc) hc)

/-! ### Lineages in the order of derivation -/

/-- No class of the list comes before one that lists it among its supertypes. -/
def DerivedFirst (l : List ClassDecl) : Prop := l.Pairwise fun b c => b.name ∉ c.supertypes

instance (l : List ClassDecl) : Decidable (DerivedFirst l) :=
  inferInstanceAs (Decidable (l.Pairwise _))

theorem inheritsFrom_iff_mem (hp : find? classes p.name = some p) :
    InheritsFrom classes c p ↔ p.name ∈ c.supertypes := by
  constructor
  · intro h
    obtain ⟨s, hs, hfind⟩ := h
    rwa [name_of_find? hfind]
  · exact fun h => ⟨p.name, h, hp⟩

/-- In such a lineage, a class comes before all that it inherits from. -/
theorem mem_after_of_transGen (hacyclic : Acyclic classes)
    (hstart : find? classes name = some start) (hfirst : DerivedFirst (lineage classes name))
    {before after : List ClassDecl} (hsplit : lineage classes name = before ++ c :: after)
    (h : TransGen (InheritsFrom classes) c p) : p ∈ after := by
  have hnext : ∀ before after x y, lineage classes name = before ++ x :: after →
      InheritsFrom classes x y → y ∈ after := by
    intro before after x y hsplit hxy
    have hx : x ∈ lineage classes name := by simp [hsplit]
    have hy : y ∈ lineage classes name :=
      (mem_lineage_iff hstart y).mpr (((mem_lineage_iff hstart x).mp hx).tail hxy)
    rw [DerivedFirst, hsplit, List.pairwise_append] at hfirst
    rw [hsplit, List.mem_append, List.mem_cons] at hy
    rcases hy with hy | rfl | hy
    · have hlisted := (inheritsFrom_iff_mem hxy.known).mp hxy
      exact absurd hlisted (hfirst.2.2 y hy x (List.mem_cons_self ..))
    · exact absurd (.single hxy) (hacyclic y)
    · exact hy
  induction h with
  | single h => exact hnext before after c _ hsplit h
  | @tail y z _ hyz ih =>
    obtain ⟨middle, last, rfl⟩ := List.append_of_mem ih
    have hlast := hnext (before ++ c :: middle) last y z (by simp [hsplit]) hyz
    simp [hlast]

/-! ### The same classes with other methods -/

/-- The class with the methods declared for its name. -/
def redeclare (declared : String → List MethodDecl) (c : ClassDecl) : ClassDecl :=
  { c with methods := declared c.name }

section Redeclare
variable (declared : String → List MethodDecl)

@[simp] theorem redeclare_name (c : ClassDecl) : (redeclare declared c).name = c.name := rfl

@[simp] theorem redeclare_methods (c : ClassDecl) :
    (redeclare declared c).methods = declared c.name := rfl

theorem find?_redeclare (name : String) :
    find? (classes.map (redeclare declared)) name =
      (find? classes name).map (redeclare declared) := by
  rw [find?, find?, List.find?_map]
  rfl

theorem nextUnseen?_redeclare (seen : List ClassDecl) (pending : List String) :
    nextUnseen? (classes.map (redeclare declared)) (seen.map (redeclare declared)) pending =
      (nextUnseen? classes seen pending).map (Prod.map (redeclare declared) id) := by
  induction pending with
  | nil => rfl
  | cons name rest ih =>
    rw [nextUnseen?, nextUnseen?, find?_redeclare]
    cases find? classes name with
    | none => exact ih
    | some c =>
      have hseen : (seen.map (redeclare declared)).any (fun x => x.name == c.name) =
          seen.any fun x => x.name == c.name := List.any_map
      simp only [Option.map_some, redeclare_name, hseen, ih]
      split <;> rfl

theorem walk_redeclare (n : Nat) (seen : List ClassDecl) (pending : List String) :
    walk (classes.map (redeclare declared)) n (seen.map (redeclare declared)) pending =
      (walk classes n seen pending).map (redeclare declared) := by
  induction n generalizing seen pending with
  | zero => rfl
  | succ n ih =>
    rw [walk, walk, nextUnseen?_redeclare]
    cases nextUnseen? classes seen pending with
    | none => rfl
    | some next =>
      have hseen : seen.map (redeclare declared) ++ [redeclare declared next.1] =
          (seen ++ [next.1]).map (redeclare declared) := by simp
      simp only [Option.map_some, Prod.map, id_eq, hseen]
      exact ih _ _

/-- The order of a lineage does not depend on the methods. -/
theorem lineage_redeclare (name : String) :
    lineage (classes.map (redeclare declared)) name =
      (lineage classes name).map (redeclare declared) := by
  rw [lineage, List.length_map]
  exact walk_redeclare declared classes.length [] [name]

theorem inheritsFrom_redeclare :
    InheritsFrom (classes.map (redeclare declared)) (redeclare declared c) p ↔
      ∃ q, InheritsFrom classes c q ∧ redeclare declared q = p := by
  simp only [InheritsFrom, find?_redeclare, Option.map_eq_some_iff]
  constructor
  · intro h
    obtain ⟨s, hs, q, hq, rfl⟩ := h
    exact ⟨q, ⟨s, hs, hq⟩, rfl⟩
  · intro h
    obtain ⟨q, ⟨s, hs, hq⟩, rfl⟩ := h
    exact ⟨s, hs, q, hq, rfl⟩

theorem transGen_redeclare :
    TransGen (InheritsFrom (classes.map (redeclare declared))) (redeclare declared c) p ↔
      ∃ q, TransGen (InheritsFrom classes) c q ∧ redeclare declared q = p := by
  constructor
  · intro h
    induction h with
    | single h =>
      obtain ⟨q, hq, rfl⟩ := (inheritsFrom_redeclare declared).mp h
      exact ⟨q, .single hq, rfl⟩
    | tail _ h ih =>
      obtain ⟨q, hq, rfl⟩ := ih
      obtain ⟨q', hq', rfl⟩ := (inheritsFrom_redeclare declared).mp h
      exact ⟨q', hq.tail hq', rfl⟩
  · intro h
    obtain ⟨q, hq, rfl⟩ := h
    exact hq.lift _ fun x y hxy => (inheritsFrom_redeclare declared).mpr ⟨y, hxy, rfl⟩

theorem acyclic_redeclare (h : Acyclic classes) :
    Acyclic (classes.map (redeclare declared)) := by
  intro x hx
  have hknown := transGen_known hx
  rw [find?_redeclare, Option.map_eq_some_iff] at hknown
  obtain ⟨c, hc, rfl⟩ := hknown
  obtain ⟨q, hq, heq⟩ := (transGen_redeclare declared).mp hx
  have hname : q.name = c.name := by simpa using congrArg ClassDecl.name heq
  have hqc : q = c := eq_of_known (transGen_known hq) (find?_name hc) hname
  subst hqc
  exact h q hq

theorem find?_redeclare_start (hstart : find? classes name = some start) :
    find? (classes.map (redeclare declared)) name = some (redeclare declared start) := by
  rw [find?_redeclare, hstart]
  rfl

theorem reaches_redeclare (hstart : find? classes name = some start)
    (hc : c ∈ lineage classes name) :
    ReflTransGen (InheritsFrom (classes.map (redeclare declared)))
      (redeclare declared start) (redeclare declared c) := by
  rw [← mem_lineage_iff (find?_redeclare_start declared hstart), lineage_redeclare]
  exact List.mem_map_of_mem hc

end Redeclare

end ClassDecl

/-! ### When an override replaces the inherited mark -/

namespace Detector
open ClassDecl
variable (d : Detector)

/-- No class that `start` inherits from, itself included, marks a method of that name and inherits
from `b`. -/
def MostDerived (classes : List ClassDecl) (start : ClassDecl) (m : String) (b : ClassDecl) :
    Prop :=
  ∀ c, ReflTransGen (InheritsFrom classes) start c → c.Marks d.names m →
    ¬TransGen (InheritsFrom classes) c b

/-- The requirement of a method name, if any, is declared by a most derived class with the mark. -/
def OverrideReplaces (classes : List ClassDecl) (name m : String) : Prop :=
  ∀ start r, find? classes name = some start → d.requirement? classes name m = some r →
    ∃ b, ReflTransGen (InheritsFrom classes) start b ∧ d.declared? m b = some r ∧
      d.MostDerived classes start m b

section
variable {classes : List ClassDecl} {name : String} {start : ClassDecl}

/-- Only a class that comes later can be more derived than the first one with the mark. -/
theorem mostDerived_iff (hacyclic : Acyclic classes) (hstart : find? classes name = some start)
    {m : String} {before after : List ClassDecl} {b : ClassDecl}
    (hsplit : lineage classes name = before ++ b :: after)
    (hbefore : ∀ c ∈ before, ¬c.Marks d.names m) :
    d.MostDerived classes start m b ↔
      ∀ c ∈ after, c.Marks d.names m → ¬TransGen (InheritsFrom classes) c b := by
  constructor
  · intro h c hc
    exact h c ((mem_lineage_iff hstart c).mp (by simp [hsplit, hc]))
  · intro h c hreach hmarks
    have hc := (mem_lineage_iff hstart c).mpr hreach
    rw [hsplit, List.mem_append, List.mem_cons] at hc
    rcases hc with hc | rfl | hc
    · exact absurd hmarks (hbefore c hc)
    · exact hacyclic c
    · exact h c hc hmarks

theorem overrideReplaces_of_derivedFirst (hacyclic : Acyclic classes)
    (hfirst : DerivedFirst (lineage classes name)) (m : String) :
    d.OverrideReplaces classes name m := by
  intro start r hstart hr
  obtain ⟨before, b, after, hsplit, hb, hbefore⟩ := (d.requirement?_eq_some_iff hstart m r).mp hr
  refine ⟨b, (mem_lineage_iff hstart b).mp (by simp [hsplit]), hb, ?_⟩
  rw [d.mostDerived_iff hacyclic hstart hsplit hbefore]
  intro c hc _ hinherits
  -- `b` would have to come after `c`, and once more before it
  obtain ⟨middle, last, rfl⟩ := List.append_of_mem hc
  have hsplit' : lineage classes name = (before ++ b :: middle) ++ c :: last := by simp [hsplit]
  have hlast := mem_after_of_transGen hacyclic hstart hfirst hsplit' hinherits
  have hnodup := List.Nodup.of_map _ (nodup_lineage hstart)
  rw [hsplit', List.nodup_append] at hnodup
  exact hnodup.2.2 b (by simp) b (by simp [hlast]) rfl

/-! ### A lineage out of order -/

/-- One method marked in two classes, in a group of its own in each, and no other methods. -/
def rivals (names : MarkNames) (base derived : String) (name : String) : List MethodDecl :=
  if name = base then [.grouped names "retry" "base"]
  else if name = derived then [.grouped names "retry" "derived"]
  else []

theorem marks_rivals_iff (names : MarkNames) (base derived : String) (c : ClassDecl) :
    (redeclare (rivals names base derived) c).Marks names "retry" ↔
      c.name = base ∨ c.name = derived := by
  have hgrouped : ∀ group, ∃ x ∈ [MethodDecl.grouped names "retry" group],
      x.isMandatory names = true ∧ x.name = "retry" := fun group =>
    ⟨_, List.mem_singleton.mpr rfl, Requirement.isMandatory_grouped .., rfl⟩
  unfold Marks
  rw [redeclare_methods, rivals]
  by_cases hbase : c.name = base
  · rw [if_pos hbase]
    exact ⟨fun _ => .inl hbase, fun _ => hgrouped "base"⟩
  · rw [if_neg hbase]
    by_cases hderived : c.name = derived
    · rw [if_pos hderived]
      exact ⟨fun _ => .inr hderived, fun _ => hgrouped "derived"⟩
    · simp [hbase, hderived]

/-- The requirement tells by its group which of the two classes makes it. -/
theorem group_of_rivals {base derived : String} {c : ClassDecl} {r : Requirement}
    (h : d.declared? "retry" (redeclare (rivals d.names base derived) c) = some r) :
    r.group = if c.name = base then some "base" else some "derived" := by
  rw [declared?, redeclare_methods, rivals] at h
  obtain ⟨x, hmem, -, -, hr⟩ := Requirement.exists_of_get?_byMethod d.names d.naming h
  split at hmem
  · next hbase =>
    rw [List.mem_singleton.mp hmem] at hr
    rw [if_pos hbase, Requirement.group_of_grouped d.names d.naming hr]
    decide
  · next hbase =>
    split at hmem
    · rw [List.mem_singleton.mp hmem] at hr
      rw [if_neg hbase, Requirement.group_of_grouped d.names d.naming hr]
      decide
    · cases hmem

/-- The first of two classes makes the requirement that both mark. -/
theorem requirement?_rivals (hstart : find? classes name = some start)
    {before after : List ClassDecl} {b c : ClassDecl}
    (hsplit : lineage classes name = before ++ b :: after) (hc : c ∈ after) {r : Requirement}
    (hr : d.declared? "retry" (redeclare (rivals d.names b.name c.name) b) = some r) :
    d.requirement? (classes.map (redeclare (rivals d.names b.name c.name))) name "retry" =
      some r := by
  rw [d.requirement?_eq_some_iff (find?_redeclare_start _ hstart), lineage_redeclare, hsplit,
    List.map_append, List.map_cons]
  refine ⟨_, _, _, rfl, hr, ?_⟩
  intro x hx hmarks
  obtain ⟨y, hy, rfl⟩ := List.mem_map.mp hx
  have hnames := nodup_lineage hstart
  rw [hsplit, List.map_append, List.map_cons, List.nodup_append] at hnames
  have hdistinct := hnames.2.2 y.name (List.mem_map_of_mem hy)
  rcases (marks_rivals_iff ..).mp hmarks with heq | heq
  · exact hdistinct b.name (List.mem_cons_self ..) heq
  · exact hdistinct c.name (List.mem_cons_of_mem _ (List.mem_map_of_mem hc)) heq

/-- When a class comes before one that lists it as a supertype, the two can mark a method such that
the override does not replace the inherited mark. -/
theorem derivedFirst_of_overrideReplaces (hstart : find? classes name = some start)
    (h : ∀ declared m, d.OverrideReplaces (classes.map (redeclare declared)) name m) :
    DerivedFirst (lineage classes name) := by
  refine pairwise_of_splits fun front c after hsplit b hb hlisted => ?_
  obtain ⟨before, middle, rfl⟩ := List.append_of_mem hb
  have hsplit' : lineage classes name = before ++ b :: (middle ++ c :: after) := by simp [hsplit]
  have hb_known := lineage_known hstart (c := b) (by simp [hsplit])
  let declared := rivals d.names b.name c.name
  have hb_marks : (redeclare declared b).Marks d.names "retry" :=
    (marks_rivals_iff ..).mpr (.inl rfl)
  have hc_marks : (redeclare declared c).Marks d.names "retry" :=
    (marks_rivals_iff ..).mpr (.inr rfl)
  rw [← d.isSome_declared?] at hb_marks
  obtain ⟨r, hr⟩ := Option.isSome_iff_exists.mp hb_marks
  have hrequired := d.requirement?_rivals hstart hsplit' (c := c) (by simp) hr
  have hstart' := find?_redeclare_start declared hstart
  obtain ⟨b', hb', hdeclared, hmost⟩ := h declared "retry" _ r hstart' hrequired
  -- no class but `b` makes that requirement, and `c` inherits from `b`
  rw [← mem_lineage_iff hstart', lineage_redeclare, List.mem_map] at hb'
  obtain ⟨x, hx, rfl⟩ := hb'
  have hxb : x.name = b.name := by
    have hgroup := d.group_of_rivals hdeclared
    rw [d.group_of_rivals hr, if_pos rfl] at hgroup
    by_contra hne
    rw [if_neg hne] at hgroup
    exact absurd hgroup (by decide)
  have hreach := reaches_redeclare declared hstart (c := c) (by simp [hsplit])
  refine hmost _ hreach hc_marks (.single ?_)
  rw [inheritsFrom_redeclare, eq_of_known (lineage_known hstart hx) hb_known hxb]
  exact ⟨b, (inheritsFrom_iff_mem hb_known).mpr hlisted, rfl⟩

/-! ### The exact condition -/

/-- **When an override replaces the inherited mark.** Without cycles, the requirements discovered on a
class are those of the method names. Each is declared by the first class of the lineage that marks
the method, and no more derived class marks it exactly when none that comes later does. Whatever
methods the classes declare, every requirement is that of a most derived class exactly when no class
of the lineage comes before one that lists it as a supertype. -/
theorem override_replaces_iff (hacyclic : Acyclic classes)
    (hstart : find? classes name = some start) :
    (∀ r, (∃ g ∈ (d.discover ((lineage classes name).flatMap methods)).entries, r ∈ g.2) ↔
      ∃ m, d.requirement? classes name m = some r) ∧
    (∀ m r, d.requirement? classes name m = some r ↔
      ∃ before b after, lineage classes name = before ++ b :: after ∧
        d.declared? m b = some r ∧ ∀ c ∈ before, ¬c.Marks d.names m) ∧
    (∀ m before b after, lineage classes name = before ++ b :: after →
      (∀ c ∈ before, ¬c.Marks d.names m) →
        (d.MostDerived classes start m b ↔
          ∀ c ∈ after, c.Marks d.names m → ¬TransGen (InheritsFrom classes) c b)) ∧
    ((∀ declared m, d.OverrideReplaces (classes.map (redeclare declared)) name m) ↔
      DerivedFirst (lineage classes name)) := by
  refine ⟨?_, d.requirement?_eq_some_iff hstart, ?_, d.derivedFirst_of_overrideReplaces hstart, ?_⟩
  · intro r
    simp only [d.requirement?_eq hstart]
    exact d.mem_discover_iff _ r
  · intro m before b after hsplit hbefore
    exact d.mostDerived_iff hacyclic hstart hsplit hbefore
  · intro hfirst declared m
    refine d.overrideReplaces_of_derivedFirst (acyclic_redeclare declared hacyclic) ?_ m
    rw [lineage_redeclare]
    exact List.pairwise_map.mpr hfirst

/-- The nearer of two supertypes is listed first, and inherits from the other. -/
def nearerFirst : List ClassDecl :=
  [{ name := "Base" }, { name := "Left", supertypes := ["Base"] },
    { name := "Config", supertypes := ["Left", "Base"] }]

theorem override_replaces_nearerFirst :
    Acyclic nearerFirst ∧ (find? nearerFirst "Config").isSome ∧
      ∀ declared m, (⟨.ofPackage defaultPackage, .bean, .error⟩ : Detector).OverrideReplaces
        (nearerFirst.map (redeclare declared)) "Config" m := by
  have hacyclic : Acyclic nearerFirst :=
    acyclic_of_rank (fun s => if s = "Base" then 0 else if s = "Left" then 1 else 2) (by decide)
  refine ⟨hacyclic, by decide, ?_⟩
  exact (override_replaces_iff _ hacyclic rfl).2.2.2.mpr (by decide)

end

namespace SecondBranch

def base : ClassDecl where
  name := "Base"
  methods := [.grouped (.ofPackage defaultPackage) "retry" "base"]

def left : ClassDecl := { name := "Left", supertypes := ["Base"] }

/-- Marks again what the other branch inherits. -/
def right : ClassDecl where
  name := "Right"
  supertypes := ["Base"]
  methods := [.grouped (.ofPackage defaultPackage) "retry" "right"]

def config : ClassDecl := { name := "Config", supertypes := ["Left", "Right"] }

def classes : List ClassDecl := [base, left, right, config]

/-- The base is met through the first branch, before the override in the second. -/
theorem not_override_replaces :
    ¬∀ (d : Detector) (classes : List ClassDecl) (name m : String), Acyclic classes →
      d.OverrideReplaces classes name m := by
  intro hlaw
  let d : Detector := ⟨.ofPackage defaultPackage, .bean, .error⟩
  have hacyclic : Acyclic classes :=
    acyclic_of_rank (fun s => if s = "Base" then 0 else if s = "Config" then 2 else 1) (by decide)
  have hconfig : find? classes "Config" = some config := rfl
  have hlineage : lineage classes "Config" = [config, left, base, right] := rfl
  have hrequired : d.requirement? classes "Config" "retry" =
      some ⟨"retry", .function, some "base", none⟩ := by decide
  obtain ⟨b, hreach, hdeclared, hmost⟩ :=
    hlaw d classes "Config" "retry" hacyclic config _ hconfig hrequired
  have hb : b = base := by
    rw [← mem_lineage_iff hconfig, hlineage] at hreach
    simp only [List.mem_cons, List.not_mem_nil, or_false] at hreach
    rcases hreach with rfl | rfl | rfl | rfl
    · exact absurd hdeclared (by decide)
    · exact absurd hdeclared (by decide)
    · rfl
    · exact absurd hdeclared (by decide)
  have hright : ReflTransGen (InheritsFrom classes) config right := by
    rw [← mem_lineage_iff hconfig, hlineage]
    simp
  have hmarks : right.Marks d.names "retry" :=
    ⟨_, List.mem_singleton.mpr rfl, by decide, rfl⟩
  have hinherits : InheritsFrom classes right base := ⟨"Base", List.mem_singleton.mpr rfl, rfl⟩
  exact hmost right hright hmarks (hb ▸ .single hinherits)

end SecondBranch

end Detector
end BuilderLint
