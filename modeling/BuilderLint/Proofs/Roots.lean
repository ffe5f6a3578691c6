import BuilderLint.Lineage
import Mathlib.Data.List.Chain
import Mathlib.Data.List.Nodup
import Mathlib.Data.Nat.Find
import Mathlib.Logic.Relation

/-! Which names stand for roots.

From a class at most one other is extended. A chain of extensions that meets a class
twice has a shorter one to the same end, so the shortest chain to a marked class is
no longer than the list of classes, and the bounded search finds it (`isRoot_iff`).
Written out as a list of classes, a chain that is not marked and goes nowhere but back
into itself decides that its name is no root (`isRoot_iff_chain`). -/
namespace BuilderLint.ClassDecl
open Relation (ReflTransGen)

/-- The extension mark of `c` names the class `p`. -/
def Extends (names : MarkNames) (classes : List ClassDecl) (c p : ClassDecl) : Prop :=
  ∃ mark name, Mark.find? c.marks names.extension = some mark ∧
    mark.text? extensionForAttribute = some name ∧ find? classes name = some p

section
variable (names : MarkNames) (classes : List ClassDecl)

theorem extends_iff (c p : ClassDecl) :
    Extends names classes c p ↔ extended? names classes c = some p := by
  simp [Extends, extended?, Option.bind_eq_some_iff]

/-! ### Chains of extensions -/

/-- The class met after a number of extensions. -/
def extendedBy? : Nat → ClassDecl → Option ClassDecl
  | 0, c => some c
  | n + 1, c => (extended? names classes c).bind (extendedBy? n)

theorem extendedBy?_add (m n : Nat) (c : ClassDecl) :
    extendedBy? names classes (m + n) c =
      (extendedBy? names classes m c).bind (extendedBy? names classes n) := by
  induction m generalizing c with
  | zero => rw [Nat.zero_add, extendedBy?, Option.bind_some]
  | succ m ih =>
    rw [Nat.succ_add, extendedBy?, extendedBy?, Option.bind_assoc]
    exact congrArg _ (funext ih)

theorem reflTransGen_extends_iff (c r : ClassDecl) :
    ReflTransGen (Extends names classes) c r ↔
      ∃ n, extendedBy? names classes n c = some r := by
  constructor
  · intro h
    induction h using ReflTransGen.head_induction_on with
    | refl => exact ⟨0, rfl⟩
    | head hstep _ ih =>
      obtain ⟨n, hn⟩ := ih
      refine ⟨n + 1, ?_⟩
      rw [extendedBy?, (extends_iff ..).mp hstep, Option.bind_some, hn]
  · intro h
    obtain ⟨n, hn⟩ := h
    induction n generalizing c with
    | zero => rw [Option.some.inj hn]
    | succ n ih =>
      obtain ⟨p, hp, hr⟩ := Option.bind_eq_some_iff.mp hn
      exact .head ((extends_iff ..).mpr hp) (ih p hr)

/-- Extensions stay among the classes. -/
theorem mem_of_extendedBy? {n : Nat} {c r : ClassDecl} (hc : c ∈ classes)
    (h : extendedBy? names classes n c = some r) : r ∈ classes := by
  induction n generalizing c with
  | zero => rwa [← Option.some.inj h]
  | succ n ih =>
    obtain ⟨p, hp, hr⟩ := Option.bind_eq_some_iff.mp h
    obtain ⟨_, _, _, _, hfind⟩ := (extends_iff ..).mpr hp
    exact ih (List.mem_of_find?_eq_some hfind) hr

/-- The shortest of the chains that end as wanted is shorter than the list of classes. -/
theorem exists_short_chain {P : ClassDecl → Prop} {c : ClassDecl} (hc : c ∈ classes)
    (h : ∃ n r, extendedBy? names classes n c = some r ∧ P r) :
    ∃ n < classes.length, ∃ r, extendedBy? names classes n c = some r ∧ P r := by
  classical
  obtain ⟨r, hr, hP⟩ := Nat.find_spec h
  refine ⟨Nat.find h, ?_, r, hr, hP⟩
  -- a chain that comes back to a class can be cut short
  have hcut : ∀ i j, i < j → j ≤ Nat.find h →
      extendedBy? names classes i c ≠ extendedBy? names classes j c := by
    intro i j hij hj heq
    have hsum : j + (Nat.find h - j) = Nat.find h := by omega
    refine Nat.find_min h (m := i + (Nat.find h - j)) (by omega) ⟨r, ?_, hP⟩
    rw [extendedBy?_add, heq, ← extendedBy?_add, hsum, hr]
  have hnodup : ((List.range (Nat.find h + 1)).map fun i =>
      extendedBy? names classes i c).Nodup := by
    refine List.Nodup.map_on (fun i hi j hj heq => ?_) List.nodup_range
    rw [List.mem_range] at hi hj
    rcases Nat.lt_trichotomy i j with hlt | hij | hlt
    · exact absurd heq (hcut i j hlt (by omega))
    · exact hij
    · exact absurd heq.symm (hcut j i hlt (by omega))
  have hsubset : ((List.range (Nat.find h + 1)).map fun i =>
      extendedBy? names classes i c) ⊆ classes.map some := by
    intro o ho
    obtain ⟨i, hi, rfl⟩ := List.mem_map.mp ho
    rw [List.mem_range] at hi
    have hsum : i + (Nat.find h - i) = Nat.find h := by omega
    rw [← hsum, extendedBy?_add] at hr
    obtain ⟨x, hx, -⟩ := Option.bind_eq_some_iff.mp hr
    simp only [hx]
    exact List.mem_map_of_mem (mem_of_extendedBy? names classes hc hx)
  have hlength := hnodup.length_le_of_subset hsubset
  rw [List.length_map, List.length_map, List.length_range] at hlength
  omega

/-! ### Roots -/

theorem meetsRoot_iff (n : Nat) (c : ClassDecl) :
    meetsRoot names classes n c = true ↔
      ∃ k ≤ n, ∃ r, extendedBy? names classes k c = some r ∧ r.isMarked names.root = true := by
  induction n generalizing c with
  | zero => simp [meetsRoot, extendedBy?]
  | succ n ih =>
    rw [meetsRoot, Bool.or_eq_true]
    constructor
    · intro h
      rcases h with h | h
      · exact ⟨0, Nat.zero_le _, c, rfl, h⟩
      · cases hp : extended? names classes c with
        | none => simp [hp] at h
        | some p =>
          rw [hp] at h
          obtain ⟨k, hk, r, hr, hmarked⟩ := (ih p).mp h
          refine ⟨k + 1, by omega, r, ?_, hmarked⟩
          rw [extendedBy?, hp, Option.bind_some, hr]
    · intro h
      obtain ⟨k, hk, r, hr, hmarked⟩ := h
      cases k with
      | zero => exact .inl (Option.some.inj hr ▸ hmarked)
      | succ k =>
        obtain ⟨p, hp, hpr⟩ := Option.bind_eq_some_iff.mp hr
        rw [hp]
        exact .inr ((ih p).mpr ⟨k, by omega, r, hpr, hmarked⟩)

/-- A search of as many extensions as there are classes misses no mark. -/
theorem meetsRoot_iff_reaches {n : Nat} {c : ClassDecl} (hc : c ∈ classes)
    (hn : classes.length ≤ n) :
    meetsRoot names classes n c = true ↔
      ∃ r, ReflTransGen (Extends names classes) c r ∧ r.isMarked names.root = true := by
  simp only [meetsRoot_iff, reflTransGen_extends_iff]
  constructor
  · intro h
    obtain ⟨k, -, r, hr, hmarked⟩ := h
    exact ⟨r, ⟨k, hr⟩, hmarked⟩
  · intro h
    obtain ⟨r, ⟨k, hr⟩, hmarked⟩ := h
    obtain ⟨m, hm, hend⟩ := exists_short_chain names classes
      (P := fun r => r.isMarked names.root = true) hc ⟨k, r, hr, hmarked⟩
    exact ⟨m, by omega, hend⟩

/-- A search of more extensions finds no other marks. -/
theorem meetsRoot_of_length_le {n : Nat} {c : ClassDecl} (hc : c ∈ classes)
    (hn : classes.length ≤ n) :
    meetsRoot names classes n c = meetsRoot names classes classes.length c := by
  rw [Bool.eq_iff_iff, meetsRoot_iff_reaches names classes hc hn,
    meetsRoot_iff_reaches names classes hc le_rfl]

/-- **Roots.** A name is a root exactly when it stands for a class from which extensions lead to one
with the root mark. -/
theorem isRoot_iff (name : String) :
    isRoot names classes name = true ↔
      ∃ c, find? classes name = some c ∧
        ∃ r, ReflTransGen (Extends names classes) c r ∧ r.isMarked names.root = true := by
  rw [isRoot]
  cases hfind : find? classes name with
  | none => simp
  | some c =>
    have hc := List.mem_of_find?_eq_some hfind
    simp only [Option.some.injEq, exists_eq_left', meetsRoot_iff_reaches names classes hc le_rfl]

/-! ### Chains as lists -/

variable {names classes}

theorem Extends.eq {c p q : ClassDecl} (hp : Extends names classes c p)
    (hq : Extends names classes c q) : p = q := by
  rw [extends_iff] at hp hq
  rw [hp, Option.some.injEq] at hq
  exact hq

theorem reaches_iff_chain {start r : ClassDecl} :
    ReflTransGen (Extends names classes) start r ↔
      ∃ chain, (start :: chain).IsChain (Extends names classes) ∧
        (start :: chain).getLast (List.cons_ne_nil _ _) = r := by
  constructor
  · exact List.exists_isChain_cons_of_relationReflTransGen
  · intro h
    obtain ⟨chain, hchain, hlast⟩ := h
    exact List.relationReflTransGen_of_exists_isChain_cons chain hchain hlast

/-- A chain that goes nowhere but back into itself is not left. -/
theorem mem_chain_of_reaches {start r : ClassDecl} {chain : List ClassDecl}
    (hchain : (start :: chain).IsChain (Extends names classes))
    (hlast : ∀ p, Extends names classes ((start :: chain).getLast (List.cons_ne_nil _ _)) p →
      p ∈ start :: chain)
    (h : ReflTransGen (Extends names classes) start r) : r ∈ start :: chain := by
  induction h with
  | refl => exact List.mem_cons_self ..
  | @tail x p _ hstep ih =>
    -- `x` extends the class after it in the chain, or is the last one
    obtain ⟨before, after, hsplit⟩ := List.append_of_mem ih
    simp only [hsplit] at hchain hlast ⊢
    cases after with
    | nil => exact hlast p (by simpa using hstep)
    | cons y after =>
      obtain ⟨-, hy, -⟩ := List.isChain_append_cons_cons.mp hchain
      rw [hstep.eq hy]
      simp

end

/-- **Chains to a root.** A name is a root exactly when a chain of extensions leads from the first
class of that name to one with the root mark. A chain without the mark that ends, or comes back to a
class it has met, belongs to no root. The bound on the search cuts no chain short, whichever larger
one takes its place, and every root resolves. -/
theorem isRoot_iff_chain (names : MarkNames) (classes : List ClassDecl) (name : String) :
    (isRoot names classes name = true ↔
      ∃ start chain, find? classes name = some start ∧
        (start :: chain).IsChain (Extends names classes) ∧
        ((start :: chain).getLast (List.cons_ne_nil _ _)).isMarked names.root = true) ∧
    (∀ start chain, find? classes name = some start →
      (start :: chain).IsChain (Extends names classes) →
      (∀ c ∈ start :: chain, c.isMarked names.root = false) →
      (∀ p, Extends names classes ((start :: chain).getLast (List.cons_ne_nil _ _)) p →
        p ∈ start :: chain) →
      isRoot names classes name = false) ∧
    (∀ start n, find? classes name = some start → classes.length ≤ n →
      meetsRoot names classes n start = isRoot names classes name) ∧
    (isRoot names classes name = true → (resolve? classes name).isSome) := by
  refine ⟨?_, ?_, ?_, ?_⟩
  · simp only [isRoot_iff, reaches_iff_chain]
    constructor
    · intro h
      obtain ⟨start, hstart, _, ⟨chain, hchain, rfl⟩, hmarked⟩ := h
      exact ⟨start, chain, hstart, hchain, hmarked⟩
    · intro h
      obtain ⟨start, chain, hstart, hchain, hmarked⟩ := h
      exact ⟨start, hstart, _, ⟨chain, hchain, rfl⟩, hmarked⟩
  · intro start chain hstart hchain hunmarked hlast
    rw [Bool.eq_false_iff, Ne, isRoot_iff]
    intro h
    obtain ⟨c, hc, r, hreach, hmarked⟩ := h
    rw [hstart, Option.some.injEq] at hc
    subst hc
    have hr := mem_chain_of_reaches hchain hlast hreach
    rw [hunmarked r hr] at hmarked
    cases hmarked
  · intro start n hstart hn
    rw [meetsRoot_of_length_le names classes (List.mem_of_find?_eq_some hstart) hn, isRoot, hstart]
  · intro h
    obtain ⟨start, hstart, -⟩ := (isRoot_iff ..).mp h
    rw [resolve?, hstart]
    rfl

end BuilderLint.ClassDecl
