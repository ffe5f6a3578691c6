import BuilderLint.Proofs.Inheritance
import Mathlib.Data.Nat.Init

/-! What a class name resolves to.

A name resolves when a class has it. The walk from the first such class comes to an
end, more steps would see nothing new, and it leaves behind that class followed by
all others it inherits from, each once. The methods are those of the classes seen, in
that order (`resolve?_collects_inherited`). -/
namespace BuilderLint.ClassDecl
open Relation (ReflTransGen)

variable {classes : List ClassDecl} {name : String} {start c : ClassDecl}

/-- A name stands for the class that is declared first under it. -/
theorem find?_eq_some_iff_first :
    find? classes name = some c ↔
      ∃ before after, classes = before ++ c :: after ∧ c.name = name ∧
        ∀ b ∈ before, b.name ≠ name := by
  rw [find?, List.find?_eq_some_iff_append]
  constructor
  · intro h
    obtain ⟨hname, before, after, hsplit, hbefore⟩ := h
    exact ⟨before, after, hsplit, by simpa using hname, by simpa using hbefore⟩
  · intro h
    obtain ⟨before, after, hsplit, hname, hbefore⟩ := h
    exact ⟨by simpa using hname, before, after, hsplit, by simpa using hbefore⟩

theorem isSome_find? : (find? classes name).isSome ↔ ∃ c ∈ classes, c.name = name := by
  rw [find?, List.find?_isSome]
  simp

/-! ### The start of a walk -/

/-- What has been seen stays in front. -/
theorem prefix_walk (n : Nat) (seen : List ClassDecl) (pending : List String) :
    seen <+: walk classes n seen pending := by
  induction n generalizing seen pending with
  | zero => exact List.prefix_rfl
  | succ n ih =>
    rw [walk]
    cases nextUnseen? classes seen pending with
    | none => exact List.prefix_rfl
    | some next => exact (List.prefix_append seen [next.1]).trans (ih _ _)

theorem nextUnseen?_start (hstart : find? classes name = some start) :
    nextUnseen? classes [] [name] = some (start, []) := by
  simp [nextUnseen?, hstart]

/-- The class of the name comes first. -/
theorem head?_lineage (hstart : find? classes name = some start) :
    (lineage classes name).head? = some start := by
  obtain ⟨n, hn⟩ := Nat.exists_eq_add_one.mpr (List.length_pos_of_mem (mem_of_find? hstart))
  have hprefix : [start] <+: walk classes n [start] (start.supertypes ++ []) := prefix_walk ..
  obtain ⟨later, hlater⟩ := hprefix
  have hwalk : lineage classes name = walk classes n [start] (start.supertypes ++ []) := by
    rw [lineage, hn, walk, nextUnseen?_start hstart]
    rfl
  rw [hwalk, ← hlater]
  rfl

/-! ### The end of a walk -/

theorem walk_succ (hstart : find? classes start.name = some start) (n : Nat)
    (seen : List ClassDecl) (pending : List String) (h : Walking classes start seen pending)
    (hn : classes.length ≤ seen.length + n) :
    walk classes (n + 1) seen pending = walk classes n seen pending := by
  induction n generalizing seen pending with
  | zero =>
    have hnone := h.nextUnseen?_of_length_le hstart hn
    simp only [walk, hnone]
  | succ n ih =>
    rw [walk, walk]
    cases hnext : nextUnseen? classes seen pending with
    | none => rfl
    | some next =>
      refine ih _ _ (h.step hstart hnext) ?_
      rw [List.length_append, List.length_singleton]
      omega

/-- Steps beyond the number of classes see nothing new. -/
theorem walk_eq_lineage (name : String) (n : Nat) (hn : classes.length ≤ n) :
    walk classes n [] [name] = lineage classes name := by
  induction n, hn using Nat.le_induction with
  | base => rfl
  | succ n hn ih =>
    rw [← ih]
    cases hfind : find? classes name with
    | none => cases n <;> simp [walk, nextUnseen?, hfind]
    | some start =>
      exact walk_succ (find?_name hfind) n [] [name] (walking_start hfind) (by simpa using hn)

/-! ### Resolved classes -/

/-- **What a class name resolves to.** A name resolves exactly when a class has it, and then to the
first such class. Its methods are those of the classes that a walk sees one after the other: the
class itself to begin with, and exactly what is reached from it by supertypes, each once. However
many more steps the walk is given, it sees no others. -/
theorem resolve?_collects_inherited (classes : List ClassDecl) (name : String) :
    ((resolve? classes name).isSome ↔ ∃ c ∈ classes, c.name = name) ∧
    (∀ r, resolve? classes name = some r →
      (∃ before after, classes = before ++ r.decl :: after ∧ r.decl.name = name ∧
        ∀ b ∈ before, b.name ≠ name) ∧
      ∃ seen : List ClassDecl, r.methods = seen.flatMap methods ∧
        seen.head? = some r.decl ∧ (seen.map ClassDecl.name).Nodup ∧
        (∀ c, c ∈ seen ↔ ReflTransGen (InheritsFrom classes) r.decl c) ∧
        ∀ n, classes.length ≤ n → walk classes n [] [name] = seen) := by
  constructor
  · rw [resolve?, Option.isSome_map, isSome_find?]
  · intro r hr
    obtain ⟨start, hstart, rfl⟩ := Option.map_eq_some_iff.mp hr
    refine ⟨find?_eq_some_iff_first.mp hstart, lineage classes name, rfl, head?_lineage hstart,
      nodup_lineage hstart, mem_lineage_iff hstart, walk_eq_lineage name⟩

end BuilderLint.ClassDecl
