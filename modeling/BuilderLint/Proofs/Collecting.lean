import BuilderLint.Files.Collect
import BuilderLint.Proofs.PathOrder
import BuilderLint.Proofs.Sorting
import Mathlib.Data.List.Nodup

/-! Collecting files from a tree of directories.

Where there are no links, a walk that may go down a level for each directory finds the
files that names lead to past the directories that are left out (`walkLevels_eq`). No two
files have the same names, and the names do not change when directories are listed in
another order (`Entry.files_perm`), so neither does the sorted list of those that the
patterns match (`wantedIn_eq_of_reorders`). -/
namespace BuilderLint
open BuilderLint.Path (IsName below)

/-! ### Trees -/

namespace Entry

/-- A tree of files and directories without links. Entries of one directory have names, no two the
same. -/
inductive Plain : Entry → Prop where
  | file (content : ByteArray) : Plain (.file content)
  | directory {es : List (String × Entry)} (hdistinct : (es.map Prod.fst).Nodup)
      (hnames : ∀ c ∈ es, IsName c.1) (h : ∀ c ∈ es, Plain c.2) : Plain (.directory es)

/-- The same tree, its directories listed in any order. -/
inductive Reorders : Entry → Entry → Prop where
  | file (content : ByteArray) : Reorders (.file content) (.file content)
  | directory {es es' : List (String × Entry)} (hnames : (es.map Prod.fst).Perm (es'.map Prod.fst))
      (h : ∀ name e e', (name, e) ∈ es → (name, e') ∈ es' → Reorders e e') :
      Reorders (.directory es) (.directory es')

mutual

/-- The names that lead to the files of a tree, past directories that are left out. -/
def files : Entry → List (List String)
  | .file _ => [[]]
  | .directory es => filesIn es
  | .link _ => []

def filesIn : List (String × Entry) → List (List String)
  | [] => []
  | (name, e) :: rest =>
    (if e.isDirectory && FileSystem.isSkipped name then [] else e.files.map (name :: ·)) ++
      filesIn rest

end

/-- Names that lead to a file, through no directory that is left out. -/
structure IsReached (tree : Entry) (names : List String) : Prop where
  isFile : ∃ content, tree.descend? names = some (.file content)
  through : ∀ name ∈ names.dropLast, FileSystem.isSkipped name = false

theorem filesIn_eq_flatMap (es : List (String × Entry)) :
    filesIn es = es.flatMap fun c =>
      if c.2.isDirectory && FileSystem.isSkipped c.1 then [] else c.2.files.map (c.1 :: ·) := by
  induction es with
  | nil => rfl
  | cons c rest ih => rw [filesIn, ih, List.flatMap_cons]

theorem child?_directory_eq_some_iff {es : List (String × Entry)}
    (hdistinct : (es.map Prod.fst).Nodup) (name : String) (e : Entry) :
    (Entry.directory es).child? name = some e ↔ (name, e) ∈ es :=
  OrderedMap.get?_eq_some_iff ⟨es, hdistinct⟩ name e

theorem mem_filesIn_iff {es : List (String × Entry)} {names : List String} :
    names ∈ filesIn es ↔ ∃ name e rest, (name, e) ∈ es ∧ names = name :: rest ∧
      rest ∈ e.files ∧ (e.isDirectory = true → FileSystem.isSkipped name = false) := by
  rw [filesIn_eq_flatMap, List.mem_flatMap]
  constructor
  · rintro ⟨⟨name, e⟩, hc, hnames⟩
    dsimp only at hnames
    split at hnames
    · cases hnames
    · rename_i hkept
      obtain ⟨rest, hrest, rfl⟩ := List.mem_map.mp hnames
      exact ⟨name, e, rest, hc, rfl, hrest, by simpa using hkept⟩
  · rintro ⟨name, e, rest, hc, rfl, hrest, hkept⟩
    refine ⟨(name, e), hc, ?_⟩
    have hkept : ¬(e.isDirectory && FileSystem.isSkipped name) = true := by simpa using hkept
    rw [if_neg hkept]
    exact List.mem_map_of_mem hrest

theorem isReached_iff {tree : Entry} {names : List String} : tree.IsReached names ↔
    (∃ content, tree.descend? names = some (.file content)) ∧
      ∀ name ∈ names.dropLast, FileSystem.isSkipped name = false :=
  ⟨fun h => ⟨h.isFile, h.through⟩, fun h => ⟨h.1, h.2⟩⟩

theorem isReached_nil_iff {e : Entry} : e.IsReached [] ↔ ∃ content, e = .file content := by
  constructor
  · rintro ⟨⟨content, h⟩, -⟩
    exact ⟨content, Option.some.inj h⟩
  · rintro ⟨content, rfl⟩
    exact ⟨⟨content, rfl⟩, List.forall_mem_nil _⟩

theorem isDirectory_of_descend? {e found : Entry} {name : String} {rest : List String}
    (h : e.descend? (name :: rest) = some found) : e.isDirectory = true := by
  cases e with
  | directory es => rfl
  | file content => cases h
  | link target => cases h

/-- A file below a directory is below one of its entries, and only directories are left out. -/
theorem isReached_cons_iff {es : List (String × Entry)} (hdistinct : (es.map Prod.fst).Nodup)
    {name : String} {rest : List String} :
    (Entry.directory es).IsReached (name :: rest) ↔ ∃ e, (name, e) ∈ es ∧ e.IsReached rest ∧
      (e.isDirectory = true → FileSystem.isSkipped name = false) := by
  constructor
  · rintro ⟨⟨content, h⟩, hthrough⟩
    rw [descend?] at h
    split at h
    · rename_i e hchild
      refine ⟨e, (child?_directory_eq_some_iff hdistinct name e).mp hchild, ?_⟩
      -- The last name is the file's own, whatever it is; a name before others is a directory's.
      cases rest with
      | nil =>
        cases h
        exact ⟨⟨⟨content, rfl⟩, List.forall_mem_nil _⟩, fun hdirectory => nomatch hdirectory⟩
      | cons next others =>
        rw [List.dropLast_cons_cons, List.forall_mem_cons] at hthrough
        exact ⟨⟨⟨content, h⟩, hthrough.2⟩, fun _ => hthrough.1⟩
    · cases h
  · rintro ⟨e, he, ⟨⟨content, h⟩, hthrough⟩, hkept⟩
    have hchild := (child?_directory_eq_some_iff hdistinct name e).mpr he
    refine ⟨⟨content, by rw [descend?, hchild]; exact h⟩, ?_⟩
    cases rest with
    | nil => exact List.forall_mem_nil _
    | cons next others =>
      rw [List.dropLast_cons_cons, List.forall_mem_cons]
      exact ⟨hkept (isDirectory_of_descend? h), hthrough⟩

theorem mem_files_iff {tree : Entry} (h : tree.Plain) (names : List String) :
    names ∈ tree.files ↔ tree.IsReached names := by
  induction h generalizing names with
  | file content =>
    rw [files, List.mem_singleton]
    cases names with
    | nil => exact iff_of_true rfl (isReached_nil_iff.mpr ⟨content, rfl⟩)
    | cons name rest =>
      exact iff_of_false (List.cons_ne_nil _ _) fun ⟨⟨_, h⟩, _⟩ => nomatch h
  | @directory es hdistinct _ _ ih =>
    rw [files, mem_filesIn_iff]
    cases names with
    | nil => simp [isReached_nil_iff]
    | cons name rest =>
      rw [isReached_cons_iff hdistinct]
      constructor
      · rintro ⟨name', e, rest', he, heq, hrest, hkept⟩
        cases heq
        exact ⟨e, he, (ih (name, e) he rest).mp hrest, hkept⟩
      · rintro ⟨e, he, hrest, hkept⟩
        exact ⟨name, e, rest, he, rfl, (ih (name, e) he rest).mpr hrest, hkept⟩

theorem nodup_files {tree : Entry} (h : tree.Plain) : tree.files.Nodup := by
  induction h with
  | file content => exact List.nodup_singleton _
  | @directory es hdistinct _ _ ih =>
    rw [files, filesIn_eq_flatMap, List.nodup_flatMap]
    constructor
    · intro c hc
      split
      · exact List.nodup_nil
      · exact (ih c hc).map (List.cons_injective)
    · -- Files below different entries have different first names.
      refine (List.pairwise_map.mp hdistinct).imp fun {c d} hne names hc hd => hne ?_
      have hhead : ∀ c : String × Entry,
          names ∈ (if c.2.isDirectory && FileSystem.isSkipped c.1 then []
            else c.2.files.map (c.1 :: ·)) → names.head? = some c.1 := by
        intro c hc
        split at hc
        · cases hc
        · obtain ⟨rest, -, rfl⟩ := List.mem_map.mp hc
          rfl
      exact Option.some.inj ((hhead c hc).symm.trans (hhead d hd))

theorem isName_of_mem_files {tree : Entry} (h : tree.Plain) {names : List String}
    (hnames : names ∈ tree.files) : ∀ name ∈ names, IsName name := by
  induction h generalizing names with
  | file content =>
    rw [files, List.mem_singleton] at hnames
    subst hnames
    exact List.forall_mem_nil _
  | @directory es _ hvalid _ ih =>
    obtain ⟨name, e, rest, he, rfl, hrest, -⟩ := mem_filesIn_iff.mp hnames
    exact List.forall_mem_cons.mpr ⟨hvalid (name, e) he, ih (name, e) he hrest⟩

/-! ### Trees listed in another order -/

/-- Entries of one name in one directory are one entry. -/
theorem eq_of_mem {es : List (String × Entry)} (hdistinct : (es.map Prod.fst).Nodup) {name : String}
    {e e' : Entry} (h : (name, e) ∈ es) (h' : (name, e') ∈ es) : e = e' :=
  Option.some.inj (((child?_directory_eq_some_iff hdistinct name e).mpr h).symm.trans
    ((child?_directory_eq_some_iff hdistinct name e').mpr h'))

theorem Reorders.refl {e : Entry} (h : e.Plain) : e.Reorders e := by
  induction h with
  | file content => exact .file content
  | directory hdistinct _ _ ih =>
    refine .directory (List.Perm.refl _) fun name e e' he he' => ?_
    rw [← eq_of_mem hdistinct he he']
    exact ih _ he

theorem Reorders.of_perm {es es' : List (String × Entry)} (h : (Entry.directory es).Plain)
    (hperm : es.Perm es') : (Entry.directory es).Reorders (.directory es') := by
  cases h with
  | directory hdistinct _ hinside =>
    refine .directory (hperm.map _) fun name e e' he he' => ?_
    rw [← eq_of_mem hdistinct he (hperm.mem_iff.mpr he')]
    exact .refl (hinside _ he)

theorem Reorders.symm {e e' : Entry} (h : e.Reorders e') : e'.Reorders e := by
  induction h with
  | file content => exact .file content
  | directory hnames _ ih =>
    exact .directory hnames.symm fun name e e' he he' => ih name e' e he' he

theorem Reorders.isDirectory_eq {e e' : Entry} (h : e.Reorders e') :
    e'.isDirectory = e.isDirectory := by
  cases h <;> rfl

theorem Reorders.plain {e e' : Entry} (h : e.Reorders e') (hplain : e.Plain) : e'.Plain := by
  induction h with
  | file content => exact .file content
  | @directory es es' hperm _ ih =>
    cases hplain with
    | directory hdistinct hnames hplain =>
      have hothers : ∀ c' ∈ es', ∃ e, (c'.1, e) ∈ es := by
        intro c' hc'
        obtain ⟨c, hc, heq⟩ := List.mem_map.mp (hperm.mem_iff.mpr (List.mem_map_of_mem hc'))
        exact ⟨c.2, heq ▸ hc⟩
      refine .directory (hperm.nodup_iff.mp hdistinct) (fun c' hc' => ?_) fun c' hc' => ?_
      · obtain ⟨e, he⟩ := hothers c' hc'
        exact hnames (c'.1, e) he
      · obtain ⟨e, he⟩ := hothers c' hc'
        exact ih c'.1 e c'.2 he hc' (hplain _ he)

theorem Reorders.isReached {e e' : Entry} (h : e.Reorders e') (hplain : e.Plain)
    (hplain' : e'.Plain) {names : List String} (hreached : e.IsReached names) :
    e'.IsReached names := by
  induction h generalizing names with
  | file content => exact hreached
  | @directory es es' hperm halike ih =>
    cases names with
    | nil =>
      obtain ⟨content, hfile⟩ := isReached_nil_iff.mp hreached
      cases hfile
    | cons name rest =>
      cases hplain with
      | directory hdistinct _ hinside =>
        cases hplain' with
        | directory hdistinct' _ hinside' =>
          obtain ⟨e, he, hrest, hkept⟩ := (isReached_cons_iff hdistinct).mp hreached
          obtain ⟨⟨name', e'⟩, he', rfl⟩ :=
            List.mem_map.mp (hperm.mem_iff.mp (List.mem_map_of_mem (f := Prod.fst) he))
          refine (isReached_cons_iff hdistinct').mpr ⟨e', he', ?_, ?_⟩
          · exact ih name' e e' he he' (hinside _ he) (hinside' _ he') hrest
          · rw [(halike name' e e' he he').isDirectory_eq]
            exact hkept

theorem files_perm {e e' : Entry} (hplain : e.Plain) (h : e.Reorders e') :
    e.files.Perm e'.files := by
  have hplain' := h.plain hplain
  refine (List.perm_ext_iff_of_nodup (nodup_files hplain) (nodup_files hplain')).mpr fun names => ?_
  rw [mem_files_iff hplain, mem_files_iff hplain']
  exact ⟨h.isReached hplain hplain', h.symm.isReached hplain' hplain⟩

/-! ### The number of directories -/

theorem directories_le_of_mem {es : List (String × Entry)} {c : String × Entry} (h : c ∈ es) :
    c.2.directories ≤ directoriesIn es := by
  induction es with
  | nil => cases h
  | cons d rest ih =>
    simp only [directoriesIn]
    rcases List.mem_cons.mp h with rfl | h
    · omega
    · have := ih h
      omega

theorem directories_descend?_le {e found : Entry} {names : List String}
    (h : e.descend? names = some found) : found.directories ≤ e.directories := by
  induction names generalizing e with
  | nil =>
    cases h
    exact Nat.le_refl _
  | cons name rest ih =>
    rw [descend?] at h
    split at h
    · rename_i c hc
      have hrest := ih h
      cases e with
      | directory es =>
        obtain ⟨entry, hentry, rfl⟩ := Option.map_eq_some_iff.mp hc
        have hle := directories_le_of_mem (List.mem_of_find?_eq_some hentry)
        have hentries : directoriesIn (Entry.directory es).entries = directoriesIn es := rfl
        simp only [directories]
        omega
      | file content => cases hc
      | link target => cases hc
    · cases h

end Entry

/-! ### The walk -/

namespace FileSystem
variable (fs : FileSystem)

/-- What there is to find among entries: each file by its path and by its path below the start. -/
def foundIn (path relative : String) (es : List (String × Entry)) : List FoundFile :=
  (Entry.filesIn es).map fun names => ⟨below path names, below relative names⟩

theorem foundIn_cons (path relative name : String) (e : Entry) (rest : List (String × Entry)) :
    foundIn path relative ((name, e) :: rest) =
      (if e.isDirectory && isSkipped name then []
        else e.files.map fun names =>
          ⟨below (Path.join path name) names, below (Path.join relative name) names⟩) ++
        foundIn path relative rest := by
  rw [foundIn, Entry.filesIn, List.map_append]
  split
  · rfl
  · rw [List.map_map]
    rfl

theorem walkEntries_eq {inner : Walk} {es : List (String × Entry)} (hplain : ∀ c ∈ es, c.2.Plain)
    (hinner : ∀ c ∈ es, ∀ es', c.2 = .directory es' → ∀ ancestors path relative,
      inner ancestors path relative es' = .ok (foundIn path relative es'))
    (ancestors : List Ancestor) (path relative : String) :
    fs.walkEntries inner ancestors path relative es = .ok (foundIn path relative es) := by
  induction es with
  | nil => rfl
  | cons c rest ih =>
    obtain ⟨name, e⟩ := c
    obtain ⟨he, hrest⟩ := List.forall_mem_cons.mp hplain
    obtain ⟨hbelow, hinner⟩ := List.forall_mem_cons.mp hinner
    rw [walkEntries, foundIn_cons, ih hrest hinner]
    cases he with
    | file content => rfl
    | @directory es' =>
      have hdirectory := hbelow es' rfl
      by_cases hskipped : isSkipped name = true
      · simp [follow, Entry.isLink, Entry.isDirectory, hskipped, bind, Except.bind, pure, Except.pure]
      · simp only [follow, Entry.isLink, Entry.isDirectory, hskipped, hdirectory, bind, Except.bind]
        rfl

/-- A walk without links finds all files, if it may go down a level for each directory. -/
theorem walkLevels_eq {levels : Nat} {es : List (String × Entry)} (hplain : ∀ c ∈ es, c.2.Plain)
    (hlevels : Entry.directoriesIn es < levels) (ancestors : List Ancestor)
    (path relative : String) :
    fs.walkLevels levels ancestors path relative es = .ok (foundIn path relative es) := by
  induction levels generalizing es ancestors path relative with
  | zero => exact absurd hlevels (Nat.not_lt_zero _)
  | succ levels ih =>
    -- An entry has fewer directories than there are in all, for it is one itself.
    rw [walkLevels]
    refine fs.walkEntries_eq hplain (fun c hc es' hes' ancestors path relative => ?_) ..
    have hle := Entry.directories_le_of_mem hc
    rw [hes', Entry.directories] at hle
    have hinside : ∀ c ∈ es', c.2.Plain := by
      have := hplain c hc
      rw [hes'] at this
      cases this with
      | directory _ _ h => exact h
    exact ih hinside (by omega) ancestors path relative

theorem descend?_of_lookup {dir place : List String} {path : String} {e : Entry}
    (h : fs.lookup dir path = .ok (place, e)) : fs.root.descend? place = some e := by
  unfold lookup at h
  cases hplace : fs.resolveFrom dir path with
  | error why => simp [hplace, bind, Except.bind] at h
  | ok found =>
    simp only [hplace, bind, Except.bind] at h
    split at h
    · cases h
      assumption
    · cases h

theorem walk_eq {path : String} {place : List String} {es : List (String × Entry)}
    (hlookup : fs.lookup fs.working path = .ok (place, .directory es))
    (hplain : (Entry.directory es).Plain) : fs.walk path = .ok (foundIn path "" es) := by
  have hdescend := Entry.directories_descend?_le (fs.descend?_of_lookup hlookup)
  have hlevels :
      Entry.directoriesIn es < (fs.root.directories + 1) * (fs.root.directories + 1) := by
    have hsquare := Nat.le_mul_self (fs.root.directories + 1)
    rw [Entry.directories] at hdescend
    omega
  cases hplain with
  | directory _ _ h =>
    simp only [walk, hlookup]
    exact fs.walkLevels_eq h hlevels ..

/-! ### What is collected -/

/-- The names that lead to the files of a tree that are wanted, in order. -/
def wantedIn (wanted : Glob.PatternSet) (tree : Entry) : List (List String) :=
  Sorting.byKey id (tree.files.filter fun names => wanted.isMatch ("/".intercalate names))

theorem mem_wantedIn {wanted : Glob.PatternSet} {tree : Entry} (h : tree.Plain)
    (names : List String) : names ∈ wantedIn wanted tree ↔
      tree.IsReached names ∧ wanted.isMatch ("/".intercalate names) = true := by
  rw [wantedIn, (Sorting.byKey_perm id _).mem_iff, List.mem_filter, Entry.mem_files_iff h]

theorem pairwise_wantedIn (wanted : Glob.PatternSet) {tree : Entry} (h : tree.Plain) :
    (wantedIn wanted tree).Pairwise (· < ·) := by
  have hdistinct : (wantedIn wanted tree).Nodup :=
    (Sorting.byKey_perm id _).nodup_iff.mpr ((Entry.nodup_files h).filter _)
  exact (Sorting.ascending_byKey id _).imp₂ (fun _ _ hle hne => lt_of_le_of_ne hle hne) hdistinct

theorem wantedIn_eq_of_reorders (wanted : Glob.PatternSet) {tree tree' : Entry} (h : tree.Plain)
    (hreorders : tree.Reorders tree') : wantedIn wanted tree' = wantedIn wanted tree := by
  have hfiles := (Entry.files_perm h hreorders).symm.filter
    fun names => wanted.isMatch ("/".intercalate names)
  have hperm : (wantedIn wanted tree').Perm (wantedIn wanted tree) :=
    ((Sorting.byKey_perm id _).trans hfiles).trans (Sorting.byKey_perm id _).symm
  exact hperm.eq_of_pairwise (fun _ _ _ _ hlt hgt => absurd (hlt.trans hgt) (lt_irrefl _))
    (pairwise_wantedIn wanted (hreorders.plain h)) (pairwise_wantedIn wanted h)

/-- The files that are wanted are returned, by their paths. -/
theorem collect_eq {path : String} {place : List String} {es : List (String × Entry)}
    (wanted : Glob.PatternSet) (hlookup : fs.lookup fs.working path = .ok (place, .directory es))
    (hplain : (Entry.directory es).Plain) :
    fs.collect path wanted = .ok ((wantedIn wanted (.directory es)).map (below path)) := by
  have hnames : ∀ names ∈ Entry.filesIn es, ∀ name ∈ names, IsName name :=
    fun _ h => Entry.isName_of_mem_files hplain h
  have hkept : (foundIn path "" es).filter (fun f => wanted.isMatch f.relative) =
      ((Entry.filesIn es).filter fun names => wanted.isMatch ("/".intercalate names)).map
        fun names => ⟨below path names, below "" names⟩ := by
    rw [foundIn, List.filter_map]
    refine congrArg _ (List.filter_congr fun names hmem => ?_)
    rw [Function.comp_apply, Path.below_empty (hnames names hmem)]
  have hsorted : ((((Entry.filesIn es).filter fun names =>
      wanted.isMatch ("/".intercalate names)).map (below path)).mergeSort Path.notAfter) =
      (wantedIn wanted (.directory es)).map (below path) := by
    refine (List.map_mergeSort fun names h others hothers => ?_).symm
    rw [Bool.eq_iff_iff, decide_eq_true_iff, Path.notAfter_below
      (hnames names (List.mem_of_mem_filter h)) (hnames others (List.mem_of_mem_filter hothers))]
    rfl
  simp only [collect, fs.walk_eq hlookup hplain, bind, Except.bind, pure, Except.pure, hkept,
    List.map_map]
  exact congrArg _ hsorted

/-- **Collecting does not depend on how directories are listed.** From a tree without links, the files
are returned that are reached through no directory that is left out and whose path below the
start the patterns match: each once, in the order of the names that lead to them. -/
theorem collect_plain {path : String} {place : List String} {es : List (String × Entry)}
    (wanted : Glob.PatternSet) (hlookup : fs.lookup fs.working path = .ok (place, .directory es))
    (hplain : (Entry.directory es).Plain) :
    ∃ found : List (List String),
      fs.collect path wanted = .ok (found.map fun names => names.foldl Path.join path) ∧
      found.Pairwise (· < ·) ∧
      (∀ names, names ∈ found ↔
        (∃ content, (Entry.directory es).descend? names = some (.file content)) ∧
        (∀ name ∈ names.dropLast, isSkipped name = false) ∧
        wanted.isMatch ("/".intercalate names) = true) ∧
      (∀ names ∈ found, Path.components (names.foldl Path.join path) =
        Path.components path ++ names.map .name) ∧
      ∀ fs' place' es', FileSystem.lookup fs' fs'.working path = .ok (place', .directory es') →
        (Entry.directory es).Reorders (.directory es') →
        fs'.collect path wanted = fs.collect path wanted := by
  refine ⟨wantedIn wanted (.directory es), fs.collect_eq wanted hlookup hplain,
    pairwise_wantedIn wanted hplain, fun names => ?_, fun names hnames => ?_, ?_⟩
  · rw [mem_wantedIn hplain, Entry.isReached_iff, and_assoc]
  · have hfile := (Entry.mem_files_iff hplain names).mpr ((mem_wantedIn hplain names).mp hnames).1
    exact Path.components_below (Entry.isName_of_mem_files hplain hfile) path
  · intro fs' place' es' hlookup' hreorders
    rw [fs'.collect_eq wanted hlookup' (hreorders.plain hplain),
      fs.collect_eq wanted hlookup hplain, wantedIn_eq_of_reorders wanted hplain hreorders]

/-- A project whose directory is itself called `build`, its entries listed in some order. -/
def project (es : List (String × Entry)) : FileSystem :=
  ⟨.directory [("work", .directory [("build", .directory es)])], ["work"]⟩

/-- A directory comes before a file whose name goes on with a dot; directories are left out by their
names and files are not. -/
theorem collect_plain_listed :
    let content := ByteArray.empty
    let inner : Entry := .directory [("b.yaml", .file content)]
    let hidden : Entry := .directory [("c.yaml", .file content)]
    let es := [("a.yaml", .file content), (".git", hidden), ("a", inner), ("target", .file content)]
    let everything : Glob.PatternSet := ⟨[⟨[.leadingDirs]⟩]⟩
    (∃ found : List (List String), (project es).collect "build" everything =
        .ok (found.map fun names => names.foldl Path.join "build") ∧
      found.Pairwise (· < ·) ∧
      ["a", "b.yaml"] ∈ found ∧ ["a.yaml"] ∈ found ∧ ["target"] ∈ found ∧
      [".git", "c.yaml"] ∉ found) ∧
    (project es.reverse).collect "build" everything = (project es).collect "build" everything := by
  intro content inner hidden es everything
  have hone : ∀ name, IsName name → (Entry.directory [(name, .file content)]).Plain :=
    fun name hname => .directory (List.nodup_singleton name) (List.forall_mem_singleton.mpr hname)
      (List.forall_mem_singleton.mpr (.file content))
  have hplain : (Entry.directory es).Plain := by
    refine .directory (by decide) (by decide) ?_
    simp only [es, List.forall_mem_cons]
    exact ⟨.file _, hone _ (by decide), hone _ (by decide), .file _, List.forall_mem_nil _⟩
  have hlookup : (project es).lookup ["work"] "build" = .ok (["work", "build"], .directory es) :=
    rfl
  obtain ⟨found, hfound, hsorted, hmem, -, hother⟩ :=
    (project es).collect_plain everything hlookup hplain
  refine ⟨⟨found, hfound, hsorted, ?_, ?_, ?_, ?_⟩, ?_⟩
  · exact (hmem _).mpr ⟨⟨content, rfl⟩, by decide, rfl⟩
  · exact (hmem _).mpr ⟨⟨content, rfl⟩, by decide, rfl⟩
  · exact (hmem _).mpr ⟨⟨content, rfl⟩, by decide, rfl⟩
  · intro h
    exact absurd ((hmem _).mp h).2.1 (by decide)
  · exact hother _ ["work", "build"] es.reverse rfl
      (.of_perm hplain (List.reverse_perm es).symm)

end FileSystem
end BuilderLint
