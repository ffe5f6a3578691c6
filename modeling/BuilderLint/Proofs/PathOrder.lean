import BuilderLint.Files.Path
import Mathlib.Data.List.Basic
import Mathlib.Data.List.Induction
import Mathlib.Data.List.Lex
import Mathlib.Data.String.Basic

/-! Paths below a directory.

The name of an entry adds one component to the path of its directory
(`components_join`), so paths below one directory are ordered as the lists of names that
lead to them (`notAfter_below`). -/
namespace BuilderLint.Path

/-! ### Components -/

theorem pieces_ne_nil (cs : List Char) : pieces cs ≠ [] := by
  induction cs with
  | nil => simp [pieces]
  | cons c rest ih =>
    rw [pieces]
    split
    · exact List.cons_ne_nil _ _
    · split <;> exact List.cons_ne_nil _ _

theorem pieces_append (front back : List Char) :
    pieces (front ++ '/' :: back) = pieces front ++ pieces back := by
  induction front with
  | nil => simp [pieces]
  | cons c rest ih =>
    rw [List.cons_append, pieces, ih, pieces]
    by_cases hc : c = '/'
    · simp [hc]
    · cases hrest : pieces rest with
      | nil => exact absurd hrest (pieces_ne_nil rest)
      | cons piece others => simp [hc]

theorem pieces_of_notMem {cs : List Char} (h : '/' ∉ cs) : pieces cs = [cs] := by
  induction cs with
  | nil => rfl
  | cons c rest ih =>
    obtain ⟨hc, hrest⟩ := not_or.mp (List.mem_cons.not.mp h)
    rw [pieces, if_neg (Ne.symm hc), ih hrest]

/-- A name that an entry of a directory can have. -/
structure IsName (s : String) : Prop where
  ne_empty : s ≠ ""
  slash_notMem : '/' ∉ s.toList
  ne_current : s ≠ "."
  ne_parent : s ≠ ".."

instance (s : String) : Decidable (IsName s) :=
  decidable_of_iff (s ≠ "" ∧ '/' ∉ s.toList ∧ s ≠ "." ∧ s ≠ "..")
    ⟨fun ⟨h, h', h'', h'''⟩ => ⟨h, h', h'', h'''⟩,
      fun h => ⟨h.ne_empty, h.slash_notMem, h.ne_current, h.ne_parent⟩⟩

theorem IsName.parts {name : String} (h : IsName name) : parts name = [name] := by
  rw [Path.parts, pieces_of_notMem h.slash_notMem]
  simp

/-! ### Components of an entry -/

/-- The component that says where a path starts, if there is one. -/
def lead (path : String) : List Component :=
  if isAbsolute path then [.root] else if (parts path).head? == some "." then [.current] else []

/-- The components that stand between slashes. -/
def between (ps : List String) : List Component :=
  (ps.filter fun p => p != "" && p != ".").map fun p => if p == ".." then .parent else .name p

theorem components_eq (path : String) : components path = lead path ++ between (parts path) := by
  unfold components lead between
  split
  · rfl
  · split <;> rfl

theorem between_append (ps others : List String) :
    between (ps ++ others) = between ps ++ between others := by
  simp only [between, List.filter_append, List.map_append]

theorem IsName.between {name : String} (h : IsName name) : between [name] = [.name name] := by
  have hkept : (name != "" && name != ".") = true := by simp [h.ne_empty, h.ne_current]
  simp [Path.between, hkept, h.ne_parent]

/-- A path that is not empty, less any slash at its end, and the path of an entry there. -/
theorem components_of_front {path longer name : String} (h : IsName name) {front : List Char}
    (hpath : path.toList = front ∧ front ≠ [] ∨ path.toList = front ++ ['/'])
    (hlonger : longer.toList = front ++ '/' :: name.toList) :
    components longer = components path ++ [.name name] := by
  obtain ⟨piece, others, hpieces⟩ := List.exists_cons_of_ne_nil (pieces_ne_nil front)
  have hlongerParts : parts longer = (piece :: others).map String.ofList ++ [name] := by
    rw [parts, hlonger, pieces_append, List.map_append, hpieces]
    exact congrArg _ h.parts
  obtain ⟨back, hback, hpathParts⟩ :
      ∃ back, between back = [] ∧ parts path = (piece :: others).map String.ofList ++ back := by
    rcases hpath with ⟨hpath, -⟩ | hpath
    · exact ⟨[], rfl, by rw [parts, hpath, hpieces, List.append_nil]⟩
    · exact ⟨[""], rfl, by rw [parts, hpath, pieces_append, List.map_append, hpieces]; rfl⟩
  have habsolute : isAbsolute longer = isAbsolute path := by
    rcases hpath with ⟨hpath, hfront⟩ | hpath
    · rw [isAbsolute, isAbsolute, hlonger, hpath, List.head?_append_of_ne_nil _ hfront]
    · rw [isAbsolute, isAbsolute, hlonger, hpath, List.head?_append, List.head?_append,
        List.head?_cons, List.head?_cons]
  have hlead : lead longer = lead path := by
    simp [lead, habsolute, hlongerParts, hpathParts]
  rw [components_eq, components_eq, hlead, hlongerParts, hpathParts, between_append, between_append,
    hback, h.between, List.append_nil, List.append_assoc]

/-- The name of an entry is one component more. -/
theorem components_join {name : String} (h : IsName name) (dir : String) :
    components (join dir name) = components dir ++ [.name name] := by
  by_cases hempty : dir = ""
  · have hlead : lead name = [] := by
      have hrelative : isAbsolute name = false := by
        cases hname : name.toList with
        | nil => rw [isAbsolute, hname]; rfl
        | cons c cs =>
          have hc : c ≠ '/' := fun hc => h.slash_notMem (by simp [hname, hc])
          simp [isAbsolute, hname, hc]
      simp [lead, hrelative, h.parts, h.ne_current]
    subst hempty
    have hjoin : join "" name = name := String.empty_append
    rw [hjoin, components_eq, hlead, h.parts, h.between]
    rfl
  · by_cases hslash : dir.toList.getLast? = some '/'
    · obtain ⟨front, hfront⟩ := List.getLast?_eq_some_iff.mp hslash
      refine components_of_front h (.inr hfront) ?_
      simp [join, hfront]
    · refine components_of_front h (.inl ⟨rfl, by simpa using hempty⟩) ?_
      simp [join, hslash, hempty]

/-! ### The order of paths -/

theorem componentsNotAfter_append (front as bs : List Component) :
    componentsNotAfter (front ++ as) (front ++ bs) = componentsNotAfter as bs := by
  induction front with
  | nil => rfl
  | cons c rest ih =>
    have hc : c.before c = false := by simp [Component.before]
    simp [componentsNotAfter, hc, ih]

theorem before_names_iff (a b : String) : (Component.name a).before (.name b) = true ↔ a < b := by
  unfold Component.before Component.rank Component.text
  simp only [Nat.lt_irrefl, decide_false, Bool.false_or, beq_self_eq_true, Bool.true_and,
    decide_eq_true_iff]

/-- Names are ordered as texts are, and lists of them name by name. -/
theorem componentsNotAfter_names (as bs : List String) :
    componentsNotAfter (as.map .name) (bs.map .name) = true ↔ as ≤ bs := by
  induction as generalizing bs with
  | nil =>
    rw [List.map_nil, componentsNotAfter, ← not_lt]
    exact iff_of_true rfl (List.not_lt_nil bs)
  | cons a as ih =>
    cases bs with
    | nil =>
      rw [List.map_nil, List.map_cons, componentsNotAfter, ← not_lt]
      exact iff_of_false Bool.false_ne_true (not_not_intro (List.nil_lt_cons a as))
    | cons b bs =>
      rw [List.map_cons, List.map_cons, componentsNotAfter, Bool.or_eq_true, Bool.and_eq_true,
        before_names_iff, ih, beq_iff_eq, Component.name.injEq, le_iff_lt_or_eq, le_iff_lt_or_eq,
        List.cons_lt_cons_iff, List.cons.injEq]
      tauto

/-! ### Paths below a directory -/

/-- The path that the names lead to from a directory. -/
def below (dir : String) (names : List String) : String := names.foldl join dir

theorem components_below {names : List String} (h : ∀ name ∈ names, IsName name) (dir : String) :
    components (below dir names) = components dir ++ names.map .name := by
  induction names generalizing dir with
  | nil => exact (List.append_nil _).symm
  | cons name rest ih =>
    obtain ⟨hname, hrest⟩ := List.forall_mem_cons.mp h
    calc components (below (join dir name) rest)
      _ = components (join dir name) ++ rest.map .name := ih hrest (join dir name)
      _ = components dir ++ (name :: rest).map .name := by
        rw [components_join hname, List.append_assoc, List.map_cons, List.singleton_append]

/-- Below a directory, paths are ordered as the names that lead there. -/
theorem notAfter_below {names others : List String} (h : ∀ name ∈ names, IsName name)
    (hothers : ∀ name ∈ others, IsName name) (dir : String) :
    notAfter (below dir names) (below dir others) = true ↔ names ≤ others := by
  rw [notAfter, components_below h, components_below hothers, componentsNotAfter_append,
    componentsNotAfter_names]

theorem join_empty (name : String) : join "" name = name := String.empty_append

/-- The path of an entry does not end in a slash. -/
theorem getLast?_join {name : String} (h : IsName name) (dir : String) :
    ∃ c ≠ '/', (join dir name).toList.getLast? = some c := by
  obtain ⟨init, c, hname⟩ := (List.eq_nil_or_concat' name.toList).resolve_left
    (by simpa using h.ne_empty)
  refine ⟨c, fun hc => h.slash_notMem (by simp [hname, hc]), ?_⟩
  unfold join
  split <;> simp [hname, List.getLast?_cons]

theorem join_of_getLast? {dir : String} {c : Char} (hlast : dir.toList.getLast? = some c)
    (hc : c ≠ '/') (name : String) : join dir name = dir ++ "/" ++ name := by
  have hsome : dir ≠ "" := by
    rintro rfl
    cases hlast
  simp [join, hsome, hlast, hc]

/-- Below nothing, the names are joined by slashes. -/
theorem below_empty {names : List String} (h : ∀ name ∈ names, IsName name) :
    below "" names = "/".intercalate names := by
  induction names using List.reverseRecOn with
  | nil => rfl
  | append_singleton front name ih =>
    obtain ⟨hfront, hname⟩ := List.forall_mem_append.mp h
    have hbelow : below "" (front ++ [name]) = join (below "" front) name := List.foldl_concat ..
    rw [hbelow]
    cases List.eq_nil_or_concat' front with
    | inl hnone =>
      subst hnone
      exact join_empty name
    | inr hsome =>
      obtain ⟨others, last, rfl⟩ := hsome
      have hlast : below "" (others ++ [last]) = join (below "" others) last := List.foldl_concat ..
      obtain ⟨c, hc, hend⟩ := getLast?_join (hfront last (by simp)) (below "" others)
      rw [← hlast] at hend
      have hsome : others ++ [last] ≠ [] :=
        List.append_ne_nil_of_right_ne_nil others (List.cons_ne_nil last [])
      rw [join_of_getLast? hend hc, ih hfront,
        String.intercalate_append_of_ne_nil hsome (List.cons_ne_nil name []),
        String.intercalate_singleton]

end BuilderLint.Path
