import BuilderLint.Lineage
import Mathlib.Data.List.Nodup
import Mathlib.Logic.Relation

/-! What a class inherits from.

The walk through the supertypes keeps an invariant (`Walking`): the classes seen are
distinct and inherited from, and what they inherit from directly is seen or pending.
Every step sees one more class, so the walk ends with nothing pending, and the
lineage of a name is the first class of that name followed by all other classes it
inherits from, each once (`mem_lineage_iff`, `nodup_lineage`). -/
namespace BuilderLint.ClassDecl
open Relation (ReflTransGen TransGen)

/-- `p` is what a supertype name of `c` stands for. -/
def InheritsFrom (classes : List ClassDecl) (c p : ClassDecl) : Prop :=
  ∃ name ∈ c.supertypes, find? classes name = some p

/-! ### Classes by name -/

section Names
variable {classes : List ClassDecl} {name : String} {c d : ClassDecl}

theorem name_of_find? (h : find? classes name = some c) : c.name = name := by
  simpa using List.find?_some h

theorem mem_of_find? (h : find? classes name = some c) : c ∈ classes :=
  List.mem_of_find?_eq_some h

theorem find?_name (h : find? classes name = some c) : find? classes c.name = some c := by
  rw [name_of_find? h, h]

theorem InheritsFrom.known (h : InheritsFrom classes c d) : find? classes d.name = some d := by
  obtain ⟨name, -, hd⟩ := h
  exact find?_name hd

/-- Known classes of one name are one class. -/
theorem eq_of_known (hc : find? classes c.name = some c) (hd : find? classes d.name = some d)
    (h : c.name = d.name) : c = d := by
  rw [h, hd, Option.some.injEq] at hc
  exact hc.symm

end Names

/-! ### One step of the walk -/

section Step
variable {classes seen : List ClassDecl} {pending : List String}

theorem nextUnseen?_eq_none (h : nextUnseen? classes seen pending = none) :
    ∀ name ∈ pending, ∀ c, find? classes name = some c → c.name ∈ seen.map ClassDecl.name := by
  induction pending with
  | nil => intro name hname; cases hname
  | cons n rest ih =>
    intro name hname c hc
    rw [nextUnseen?] at h
    rcases List.mem_cons.mp hname with rfl | hname
    · rw [hc] at h
      by_cases hseen : seen.any (·.name == c.name) = true
      · obtain ⟨x, hx, heq⟩ := List.any_eq_true.mp hseen
        exact List.mem_map.mpr ⟨x, hx, by simpa using heq⟩
      · simp [hseen] at h
    · refine ih ?_ name hname c hc
      split at h
      · split at h
        · exact h
        · cases h
      · exact h

theorem nextUnseen?_eq_some {c : ClassDecl} {rest : List String}
    (h : nextUnseen? classes seen pending = some (c, rest)) :
    ∃ skipped name, pending = skipped ++ name :: rest ∧ find? classes name = some c ∧
      c.name ∉ seen.map ClassDecl.name ∧ nextUnseen? classes seen skipped = none := by
  induction pending with
  | nil => cases h
  | cons n pending ih =>
    rw [nextUnseen?] at h
    cases hn : find? classes n with
    | none =>
      rw [hn] at h
      obtain ⟨skipped, name, rfl, hfind, hnew, hskip⟩ := ih h
      exact ⟨n :: skipped, name, rfl, hfind, hnew, by simpa [nextUnseen?, hn] using hskip⟩
    | some d =>
      rw [hn] at h
      by_cases hseen : seen.any (·.name == d.name) = true
      · simp only [hseen, if_true] at h
        obtain ⟨skipped, name, rfl, hfind, hnew, hskip⟩ := ih h
        exact ⟨n :: skipped, name, rfl, hfind, hnew, by simpa [nextUnseen?, hn, hseen] using hskip⟩
      · simp only [hseen, Bool.false_eq_true, if_false, Option.some.injEq, Prod.mk.injEq] at h
        obtain ⟨rfl, rfl⟩ := h
        refine ⟨[], n, rfl, hn, ?_, rfl⟩
        simpa using hseen

end Step

/-! ### The invariant -/

/-- Part way through the walk from `start`. -/
structure Walking (classes : List ClassDecl) (start : ClassDecl) (seen : List ClassDecl)
    (pending : List String) : Prop where
  known : ∀ c ∈ seen, find? classes c.name = some c
  distinct : (seen.map ClassDecl.name).Nodup
  reached : ∀ c ∈ seen, ReflTransGen (InheritsFrom classes) start c
  ahead : ∀ name ∈ pending, ∀ c, find? classes name = some c →
    ReflTransGen (InheritsFrom classes) start c
  begun : start ∈ seen ∨ start.name ∈ pending
  /-- What a seen class inherits from directly is not forgotten. -/
  frontier : ∀ c ∈ seen, ∀ p, InheritsFrom classes c p → p ∈ seen ∨ p.name ∈ pending

namespace Walking
variable {classes seen : List ClassDecl} {start : ClassDecl} {pending : List String}

/-- A class of a seen name is seen. -/
theorem mem_of_name_mem (h : Walking classes start seen pending) {c : ClassDecl}
    (hc : find? classes c.name = some c) (hname : c.name ∈ seen.map ClassDecl.name) : c ∈ seen := by
  obtain ⟨x, hx, heq⟩ := List.mem_map.mp hname
  exact eq_of_known (h.known x hx) hc heq ▸ hx

theorem seen_nodup (h : Walking classes start seen pending) : seen.Nodup :=
  List.Nodup.of_map _ h.distinct

theorem length_le (h : Walking classes start seen pending) : seen.length ≤ classes.length :=
  h.seen_nodup.length_le_of_subset fun c hc => mem_of_find? (h.known c hc)

/-- Seeing the next class keeps the invariant. -/
theorem step (h : Walking classes start seen pending) (hstart : find? classes start.name = some start)
    {c : ClassDecl} {rest : List String}
    (hnext : nextUnseen? classes seen pending = some (c, rest)) :
    Walking classes start (seen ++ [c]) (c.supertypes ++ rest) := by
  obtain ⟨skipped, name, hpending, hfind, hnew, hskip⟩ := nextUnseen?_eq_some hnext
  have hreach : ReflTransGen (InheritsFrom classes) start c :=
    h.ahead name (by simp [hpending]) c hfind
  -- a pending class is skipped as seen, or is the next one, or stays pending
  have hmoved : ∀ p, find? classes p.name = some p → p ∈ seen ∨ p.name ∈ pending →
      p ∈ seen ++ [c] ∨ p.name ∈ c.supertypes ++ rest := by
    intro p hp hmet
    rcases hmet with hseen | hmem
    · exact .inl (List.mem_append_left _ hseen)
    · rw [hpending, List.mem_append, List.mem_cons] at hmem
      rcases hmem with hmem | heq | hmem
      · have hname := nextUnseen?_eq_none hskip p.name hmem p hp
        exact .inl (List.mem_append_left _ (h.mem_of_name_mem hp hname))
      · rw [heq, hfind, Option.some.injEq] at hp
        exact .inl (by simp [hp])
      · exact .inr (List.mem_append_right _ hmem)
  refine ⟨?_, ?_, ?_, ?_, hmoved start hstart h.begun, ?_⟩
  · intro x hx
    rcases List.mem_append.mp hx with hx | hx
    · exact h.known x hx
    · rw [List.mem_singleton.mp hx]
      exact find?_name hfind
  · rw [List.map_append, List.nodup_append]
    refine ⟨h.distinct, by simp, ?_⟩
    intro a ha b hb heq
    subst heq
    rw [List.map_singleton, List.mem_singleton] at hb
    exact hnew (hb ▸ ha)
  · intro x hx
    rcases List.mem_append.mp hx with hx | hx
    · exact h.reached x hx
    · rwa [List.mem_singleton.mp hx]
  · intro n hn p hp
    rcases List.mem_append.mp hn with hn | hn
    · exact hreach.tail ⟨n, hn, hp⟩
    · exact h.ahead n (by simp [hpending, hn]) p hp
  · intro x hx p hxp
    rcases List.mem_append.mp hx with hx | hx
    · exact hmoved p hxp.known (h.frontier x hx p hxp)
    · rw [List.mem_singleton.mp hx] at hxp
      obtain ⟨n, hn, hp⟩ := hxp
      exact .inr (List.mem_append_left _ (name_of_find? hp ▸ hn))

/-- When as many classes are seen as there are, nothing new is pending. -/
theorem nextUnseen?_of_length_le (h : Walking classes start seen pending)
    (hstart : find? classes start.name = some start) (hfull : classes.length ≤ seen.length) :
    nextUnseen? classes seen pending = none := by
  cases hnext : nextUnseen? classes seen pending with
  | none => rfl
  | some next =>
    have hlength := (h.step hstart hnext).length_le
    rw [List.length_append, List.length_singleton] at hlength
    omega

/-- With nothing new pending, exactly what is inherited from has been seen. -/
theorem mem_iff (h : Walking classes start seen pending)
    (hstart : find? classes start.name = some start)
    (hdone : nextUnseen? classes seen pending = none) (c : ClassDecl) :
    c ∈ seen ↔ ReflTransGen (InheritsFrom classes) start c := by
  have hpending : ∀ p, find? classes p.name = some p → p ∈ seen ∨ p.name ∈ pending → p ∈ seen := by
    intro p hp hmet
    rcases hmet with hseen | hmem
    · exact hseen
    · exact h.mem_of_name_mem hp (nextUnseen?_eq_none hdone p.name hmem p hp)
  refine ⟨h.reached c, fun hreach => ?_⟩
  induction hreach with
  | refl => exact hpending start hstart h.begun
  | tail _ hstep ih => exact hpending _ hstep.known (h.frontier _ ih _ hstep)

end Walking

/-! ### The whole walk -/

section Lineage
variable {classes : List ClassDecl} {name : String} {start : ClassDecl}

/-- With enough steps the walk ends with nothing new pending. -/
theorem walk_ends (hstart : find? classes start.name = some start) (n : Nat)
    (seen : List ClassDecl) (pending : List String) (h : Walking classes start seen pending)
    (hn : classes.length ≤ seen.length + n) :
    ∃ left, Walking classes start (walk classes n seen pending) left ∧
      nextUnseen? classes (walk classes n seen pending) left = none := by
  induction n generalizing seen pending with
  | zero => exact ⟨pending, h, h.nextUnseen?_of_length_le hstart hn⟩
  | succ n ih =>
    rw [walk]
    cases hnext : nextUnseen? classes seen pending with
    | none => exact ⟨pending, h, hnext⟩
    | some next =>
      refine ih _ _ (h.step hstart hnext) ?_
      rw [List.length_append, List.length_singleton]
      omega

theorem walking_start (hstart : find? classes name = some start) :
    Walking classes start [] [name] where
  known := fun _ hc => nomatch hc
  distinct := List.nodup_nil
  reached := fun _ hc => nomatch hc
  ahead := fun n hn c hc => by
    rw [List.mem_singleton.mp hn, hstart, Option.some.injEq] at hc
    rw [hc]
  begun := .inr (by simp [name_of_find? hstart])
  frontier := fun _ hc => nomatch hc

theorem lineage_walked (hstart : find? classes name = some start) :
    ∃ left, Walking classes start (lineage classes name) left ∧
      nextUnseen? classes (lineage classes name) left = none :=
  walk_ends (find?_name hstart) classes.length [] [name] (walking_start hstart) (by simp)

/-- The lineage of a name is what the class of that name inherits from. -/
theorem mem_lineage_iff (hstart : find? classes name = some start) (c : ClassDecl) :
    c ∈ lineage classes name ↔ ReflTransGen (InheritsFrom classes) start c := by
  obtain ⟨left, hwalking, hdone⟩ := lineage_walked hstart
  exact hwalking.mem_iff (find?_name hstart) hdone c

theorem lineage_known (hstart : find? classes name = some start) {c : ClassDecl}
    (hc : c ∈ lineage classes name) : find? classes c.name = some c := by
  obtain ⟨left, hwalking, -⟩ := lineage_walked hstart
  exact hwalking.known c hc

/-- No class name occurs twice in a lineage. -/
theorem nodup_lineage (hstart : find? classes name = some start) :
    ((lineage classes name).map ClassDecl.name).Nodup := by
  obtain ⟨left, hwalking, -⟩ := lineage_walked hstart
  exact hwalking.distinct

end Lineage

end BuilderLint.ClassDecl
