import BuilderLint.Proofs.Resolution

/-! The order of a lineage.

The plain way through the supertypes visits a class and then, one after the other, all
that its supertypes lead to. It knows of nothing but the path it came by, so it walks a
shared ancestor again for every branch that leads there. A walk that remembers what it
has seen prunes these. It loses nothing: of the classes seen, only those on the path can
have supertypes that are not (`Settled`), so whatever a pruned branch leads to off the
path has been seen before. The lineage is the plain way with the first place of each
class kept (`resolve?_depthFirst`). -/
namespace BuilderLint.ClassDecl

/-! ### The plain way -/

/-- The class of that name, then all that its supertypes lead to, as often as they do. A class that
the path goes through is not visited again. -/
def depthFirst (classes : List ClassDecl) (path : List String) (name : String) : List ClassDecl :=
  match _h : find? classes name with
  | none => []
  | some c =>
    if c.name ∈ path then []
    else c :: c.supertypes.flatMap (depthFirst classes (c.name :: path))
termination_by (classes.filter fun c => c.name ∉ path).length
decreasing_by
  have hlonger : (classes.filter fun x => x.name ∉ c.name :: path) =
      (classes.filter fun x => x.name ∉ path).filter fun x => x.name ≠ c.name := by
    rw [List.filter_filter]
    exact List.filter_congr fun x _ => by simp
  rw [hlonger, List.length_filter_lt_length_iff_exists]
  have hmem : c ∈ classes := mem_of_find? ‹find? classes _ = some c›
  exact ⟨c, by simpa using ⟨hmem, ‹c.name ∉ path›⟩, by simp⟩

/-- Of the classes of that list, each at its first place, those that are not seen are put behind
the others. -/
def remember (seen : List ClassDecl) : List ClassDecl → List ClassDecl
  | [] => seen
  | c :: rest => remember (if seen.any (·.name == c.name) then seen else seen ++ [c]) rest

section
variable {classes seen : List ClassDecl} {path : List String} {name : String} {c : ClassDecl}

theorem depthFirst_of_unknown (h : find? classes name = none) :
    depthFirst classes path name = [] := by
  rw [depthFirst]
  split
  · rfl
  · rename_i c hc
    rw [h] at hc
    cases hc

theorem depthFirst_of_known (h : find? classes name = some c) :
    depthFirst classes path name =
      if c.name ∈ path then []
      else c :: c.supertypes.flatMap (depthFirst classes (c.name :: path)) := by
  rw [depthFirst]
  split
  · rename_i hc
    rw [h] at hc
    cases hc
  · rename_i d hd
    rw [h, Option.some.injEq] at hd
    rw [hd]

/-! ### First places -/

theorem remember_append (seen a b : List ClassDecl) :
    remember seen (a ++ b) = remember (remember seen a) b := by
  induction a generalizing seen with
  | nil => rfl
  | cons c rest ih => exact ih _

theorem subset_remember (seen l : List ClassDecl) : seen ⊆ remember seen l := by
  induction l generalizing seen with
  | nil => exact List.Subset.refl seen
  | cons c rest ih =>
    refine List.Subset.trans ?_ (ih _)
    split
    · exact List.Subset.refl seen
    · exact List.subset_append_left seen [c]

theorem remember_of_subset {l : List ClassDecl} (h : l ⊆ seen) : remember seen l = seen := by
  induction l with
  | nil => rfl
  | cons c rest ih =>
    obtain ⟨hc, hrest⟩ := List.cons_subset.mp h
    have hseen : seen.any (·.name == c.name) = true :=
      List.any_eq_true.mpr ⟨c, hc, beq_self_eq_true _⟩
    rw [remember, if_pos hseen, ih hrest]

theorem remember_cons_of_new (h : c.name ∉ seen.map ClassDecl.name) (l : List ClassDecl) :
    remember seen (c :: l) = remember (seen ++ [c]) l := by
  have hnew : ¬seen.any (·.name == c.name) = true := by simpa using h
  rw [remember, if_neg hnew]

/-- Met from the start, a list keeps the first of the classes of each name. -/
theorem eraseDupsBy_eq_remember (l : List ClassDecl) :
    (l.eraseDupsBy fun a b => a.name == b.name) = remember [] l := by
  have hloop : ∀ l seen : List ClassDecl,
      List.eraseDupsBy.loop (fun a b : ClassDecl => a.name == b.name) l seen.reverse =
        remember seen l := by
    intro l
    induction l with
    | nil =>
      intro seen
      rw [List.eraseDupsBy.loop, List.reverse_reverse, remember]
    | cons c rest ih =>
      intro seen
      have hany : (seen.reverse.any fun b => c.name == b.name) = seen.any (·.name == c.name) := by
        rw [List.any_reverse]
        exact congrArg _ (funext fun b => Bool.beq_comm)
      rw [List.eraseDupsBy.loop, hany, remember]
      cases seen.any (·.name == c.name) with
      | true => exact ih seen
      | false => simpa using ih (seen ++ [c])
  exact hloop l []

end

/-! ### What a visit leaves behind -/

/-- Of the classes seen, those that are not on the path have all their supertypes seen. -/
structure Settled (classes seen : List ClassDecl) (path : List String) : Prop where
  known : ∀ c ∈ seen, find? classes c.name = some c
  on_path : ∀ name ∈ path, name ∈ seen.map ClassDecl.name
  closed : ∀ c ∈ seen, c.name ∉ path → ∀ p, InheritsFrom classes c p → p ∈ seen

/-- With the path as it is, the walk comes from the classes seen at first to those seen at last by
way of the pending names. -/
structure Visits (classes : List ClassDecl) (path names : List String)
    (seen seen' : List ClassDecl) : Prop where
  settled : Settled classes seen' path
  met : ∀ name ∈ names, ∀ c, find? classes name = some c → c ∈ seen'
  walked : ∃ k, ∀ n pending,
    walk classes (n + k) seen (names ++ pending) = walk classes n seen' pending

section
variable {classes seen : List ClassDecl} {path : List String} {name : String} {c : ClassDecl}

namespace Settled

theorem mem_of_name_mem (h : Settled classes seen path) (hc : find? classes name = some c)
    (hname : c.name ∈ seen.map ClassDecl.name) : c ∈ seen := by
  obtain ⟨x, hx, heq⟩ := List.mem_map.mp hname
  exact eq_of_known (h.known x hx) (find?_name hc) heq ▸ hx

/-- The path goes on to a class that is seen. -/
theorem extend (h : Settled classes seen path) (hc : c ∈ seen) :
    Settled classes seen (c.name :: path) where
  known := h.known
  on_path := by
    intro name hname
    rcases List.mem_cons.mp hname with rfl | hname
    · exact List.mem_map_of_mem hc
    · exact h.on_path name hname
  closed := fun x hx hoff => h.closed x hx fun hpath => hoff (List.mem_cons_of_mem _ hpath)

/-- The path goes on to a class that is seen now. -/
theorem enter (h : Settled classes seen path) (hc : find? classes name = some c) :
    Settled classes (seen ++ [c]) (c.name :: path) where
  known := by
    intro x hx
    rcases List.mem_append.mp hx with hx | hx
    · exact h.known x hx
    · rw [List.mem_singleton.mp hx]
      exact find?_name hc
  on_path := by
    intro name hname
    rw [List.map_append, List.mem_append]
    rcases List.mem_cons.mp hname with rfl | hname
    · exact .inr (by simp)
    · exact .inl (h.on_path name hname)
  closed := by
    intro x hx hoff p hp
    rw [List.mem_cons, not_or] at hoff
    rcases List.mem_append.mp hx with hx | hx
    · exact List.mem_append_left _ (h.closed x hx hoff.2 p hp)
    · exact absurd (congrArg ClassDecl.name (List.mem_singleton.mp hx)) hoff.1

/-- The path goes back from a class whose supertypes are all seen. -/
theorem leave (h : Settled classes seen (c.name :: path)) (hc : find? classes name = some c)
    (hall : ∀ p, InheritsFrom classes c p → p ∈ seen) : Settled classes seen path where
  known := h.known
  on_path := fun name hname => h.on_path name (List.mem_cons_of_mem _ hname)
  closed := by
    intro x hx hoff p hp
    by_cases heq : x.name = c.name
    · exact hall p (eq_of_known (h.known x hx) (find?_name hc) heq ▸ hp)
    · exact h.closed x hx (by simp [heq, hoff]) p hp

/-- Nothing new lies beyond a class that is seen. -/
theorem depthFirst_subset (h : Settled classes seen path) (hc : find? classes name = some c)
    (hseen : c ∈ seen) : depthFirst classes path name ⊆ seen := by
  induction path, name using depthFirst.induct classes generalizing c with
  | case1 path name hnone =>
    rw [hnone] at hc
    cases hc
  | case2 path name d hd hpath =>
    rw [depthFirst_of_known hd, if_pos hpath]
    exact List.nil_subset seen
  | case3 path name d hd hpath ih =>
    rw [hd, Option.some.injEq] at hc
    subst hc
    rw [depthFirst_of_known hd, if_neg hpath, List.cons_subset]
    refine ⟨hseen, fun x hx => ?_⟩
    obtain ⟨s, hs, hx⟩ := List.mem_flatMap.mp hx
    cases hp : find? classes s with
    | none =>
      rw [depthFirst_of_unknown hp] at hx
      cases hx
    | some p => exact ih s (h.extend hseen) hp (h.closed d hseen hpath p ⟨s, hs, hp⟩) hx

end Settled

/-! ### One name -/

/-- A pending name that stands for nothing new is passed over. -/
theorem walk_skip (h : ∀ c, find? classes name = some c → c ∈ seen) (n : Nat)
    (pending : List String) :
    walk classes n seen (name :: pending) = walk classes n seen pending := by
  have hskip : nextUnseen? classes seen (name :: pending) = nextUnseen? classes seen pending := by
    rw [nextUnseen?]
    cases hc : find? classes name with
    | none => rfl
    | some c =>
      have hseen : seen.any (·.name == c.name) = true :=
        List.any_eq_true.mpr ⟨c, h c hc, beq_self_eq_true _⟩
      simp only [hseen, if_true]
  cases n with
  | zero => rfl
  | succ n => rw [walk, walk, hskip]

theorem walk_visit (hc : find? classes name = some c) (hnew : c.name ∉ seen.map ClassDecl.name)
    (n : Nat) (pending : List String) :
    walk classes (n + 1) seen (name :: pending) =
      walk classes n (seen ++ [c]) (c.supertypes ++ pending) := by
  have hunseen : ¬seen.any (·.name == c.name) = true := by simpa using hnew
  have hnext : nextUnseen? classes seen (name :: pending) = some (c, pending) := by
    simp only [nextUnseen?, hc, if_neg hunseen]
  simp only [walk, hnext]

theorem visits_nothing (h : Settled classes seen path)
    (hseen : ∀ c, find? classes name = some c → c ∈ seen) :
    Visits classes path [name] seen seen where
  settled := h
  met := by
    intro n hn c hc
    rw [List.mem_singleton.mp hn] at hc
    exact hseen c hc
  walked := ⟨0, fun n pending => walk_skip hseen n pending⟩

/-- A class that is new, and all that its supertypes lead to. -/
theorem visits_class {seen' : List ClassDecl} (hc : find? classes name = some c)
    (hnew : c.name ∉ seen.map ClassDecl.name)
    (h : Visits classes (c.name :: path) c.supertypes (seen ++ [c]) seen')
    (hsubset : seen ++ [c] ⊆ seen') : Visits classes path [name] seen seen' where
  settled := by
    refine h.settled.leave hc fun p hp => ?_
    obtain ⟨s, hs, hp⟩ := hp
    exact h.met s hs p hp
  met := by
    intro n hn d hd
    rw [List.mem_singleton.mp hn, hc, Option.some.injEq] at hd
    exact hd ▸ hsubset (by simp)
  walked := by
    obtain ⟨k, hk⟩ := h.walked
    refine ⟨k + 1, fun n pending => ?_⟩
    exact (walk_visit hc hnew (n + k) pending).trans (hk n pending)

/-! ### Many names -/

theorem Visits.append {names names' : List String} {seen' seen'' : List ClassDecl}
    (h : Visits classes path names seen seen') (h' : Visits classes path names' seen' seen'')
    (hsubset : seen' ⊆ seen'') : Visits classes path (names ++ names') seen seen'' where
  settled := h'.settled
  met := by
    intro name hname c hc
    rcases List.mem_append.mp hname with hname | hname
    · exact hsubset (h.met name hname c hc)
    · exact h'.met name hname c hc
  walked := by
    obtain ⟨k, hk⟩ := h.walked
    obtain ⟨k', hk'⟩ := h'.walked
    refine ⟨k' + k, fun n pending => ?_⟩
    rw [← Nat.add_assoc, List.append_assoc, hk, hk']

theorem visits_names
    (hone : ∀ name seen, Settled classes seen path →
      Visits classes path [name] seen (remember seen (depthFirst classes path name)))
    (names : List String) (seen : List ClassDecl) (h : Settled classes seen path) :
    Visits classes path names seen (remember seen (names.flatMap (depthFirst classes path))) := by
  induction names generalizing seen with
  | nil => exact ⟨h, (fun _ hname => nomatch hname), 0, fun _ _ => rfl⟩
  | cons name rest ih =>
    have hfirst := hone name seen h
    rw [List.flatMap_cons, remember_append]
    exact hfirst.append (ih _ hfirst.settled) (subset_remember _ _)

/-- The walk with a memory sees what the plain way meets, in the same order. -/
theorem visits_depthFirst (classes : List ClassDecl) (path : List String) (name : String)
    (seen : List ClassDecl) (h : Settled classes seen path) :
    Visits classes path [name] seen (remember seen (depthFirst classes path name)) := by
  induction path, name using depthFirst.induct classes generalizing seen with
  | case1 path name hnone =>
    rw [depthFirst_of_unknown hnone]
    exact visits_nothing h fun c hc => nomatch hnone.symm.trans hc
  | case2 path name c hc hpath =>
    have hseen := h.mem_of_name_mem hc (h.on_path c.name hpath)
    rw [depthFirst_of_known hc, if_pos hpath]
    exact visits_nothing h fun d hd => by
      rw [hc, Option.some.injEq] at hd
      exact hd ▸ hseen
  | case3 path name c hc hpath ih =>
    by_cases hnew : c.name ∈ seen.map ClassDecl.name
    · have hseen := h.mem_of_name_mem hc hnew
      rw [remember_of_subset (h.depthFirst_subset hc hseen)]
      exact visits_nothing h fun d hd => by
        rw [hc, Option.some.injEq] at hd
        exact hd ▸ hseen
    · rw [depthFirst_of_known hc, if_neg hpath, remember_cons_of_new hnew]
      exact visits_class hc hnew (visits_names ih c.supertypes (seen ++ [c]) (h.enter hc))
        (subset_remember _ _)

/-! ### The lineage -/

theorem known_of_mem_depthFirst (path : List String) (name : String)
    (hc : c ∈ depthFirst classes path name) : find? classes c.name = some c := by
  induction path, name using depthFirst.induct classes with
  | case1 path name hnone =>
    rw [depthFirst_of_unknown hnone] at hc
    cases hc
  | case2 path name d hd hpath =>
    rw [depthFirst_of_known hd, if_pos hpath] at hc
    cases hc
  | case3 path name d hd hpath ih =>
    rw [depthFirst_of_known hd, if_neg hpath] at hc
    rcases List.mem_cons.mp hc with rfl | hc
    · exact find?_name hd
    · obtain ⟨s, -, hc⟩ := List.mem_flatMap.mp hc
      exact ih s hc

theorem lineage_eq_remember (classes : List ClassDecl) (name : String) :
    lineage classes name = remember [] (depthFirst classes [] name) := by
  have hstart : Settled classes [] [] :=
    ⟨(fun _ hc => nomatch hc), (fun _ hname => nomatch hname), (fun _ hc => nomatch hc)⟩
  obtain ⟨k, hk⟩ := (visits_depthFirst classes [] name [] hstart).walked
  calc lineage classes name
      = walk classes (classes.length + k) [] [name] :=
        (walk_eq_lineage name _ (Nat.le_add_right _ _)).symm
    _ = walk classes classes.length (remember [] (depthFirst classes [] name)) [] := hk _ []
    _ = remember [] (depthFirst classes [] name) := by cases classes.length <;> rfl

end

/-- **The order of inherited methods.** The plain way from a class through its supertypes meets
classes by name, and meets the same class wherever it meets the name. When only the first place of
each class is kept, it is the lineage of the class: its methods, followed by the inherited ones, are
what the name resolves to. -/
theorem resolve?_depthFirst (classes : List ClassDecl) (name : String) :
    (∀ c ∈ depthFirst classes [] name, find? classes c.name = some c) ∧
    lineage classes name =
      (depthFirst classes [] name).eraseDupsBy (fun a b => a.name == b.name) ∧
    resolve? classes name = (find? classes name).map fun c =>
      ⟨c, ((depthFirst classes [] name).eraseDupsBy fun a b => a.name == b.name).flatMap
        methods⟩ := by
  have hlineage : lineage classes name =
      (depthFirst classes [] name).eraseDupsBy fun a b => a.name == b.name := by
    rw [lineage_eq_remember, eraseDupsBy_eq_remember]
  refine ⟨fun c hc => known_of_mem_depthFirst [] name hc, hlineage, ?_⟩
  rw [resolve?, hlineage]

end BuilderLint.ClassDecl
