import BuilderLint.Proofs.Discovery
import BuilderLint.Proofs.Similarity

/-! Facts that make no difference.

Most of what a document says of its classes is of no use to the checks: marks of other
names, marks that repeat a name, attributes that are not read, methods that are not
mandatory, supertypes that stand for no class, classes of a name that was declared
before, and classes that no receiver leads to. `Document.Trims` takes out one such fact.
What is left agrees with what was there on all names that the receivers lead to
(`Document.Trims.agree`), so however many of these facts are taken out, and in whatever
order, the outcome of the document stays the same (`checkDocument_of_trims`). -/
namespace BuilderLint
open Relation (ReflTransGen)

/-! ### Searches in a changed list -/

section Searches
variable {α : Type} {R : α → α → Prop} {p : α → Bool} {before after : List α}

/-- An element can go when an earlier one is found in its place. -/
theorem find?_drop {x : α} (h : p x = true → (before.find? p).isSome = true) :
    (before ++ after).find? p = (before ++ x :: after).find? p := by
  rw [List.find?_append, List.find?_append]
  cases hbefore : before.find? p with
  | some y => rfl
  | none =>
    rw [hbefore] at h
    cases hx : p x with
    | true => cases h hx
    | false => rw [List.find?_cons, hx]

theorem rel_of_eq (hrefl : ∀ z, R z z) {o o' : Option α} (h : o' = o) : Option.Rel R o o' := by
  subst h
  cases o' with
  | none => exact .none
  | some z => exact .some (hrefl z)

/-- An element can make way for another that is searched for alike. -/
theorem find?_replace {x y : α} (hrefl : ∀ z, R z z) (hxy : R x y) (hp : p y = p x) :
    Option.Rel R ((before ++ x :: after).find? p) ((before ++ y :: after).find? p) := by
  rw [List.find?_append, List.find?_append]
  cases before.find? p with
  | some z => exact .some (hrefl z)
  | none =>
    simp only [Option.none_or, List.find?_cons, hp]
    cases p x with
    | true => exact .some hxy
    | false => exact rel_of_eq hrefl rfl

end Searches

/-- What is read of a map without one of its entries. -/
theorem OrderedMap.get?_cut {β : Type} {m m' : OrderedMap β} {before after : List (String × β)}
    {key : String} {value : β} (hm : m.entries = before ++ (key, value) :: after)
    (hm' : m'.entries = before ++ after) (k : String) :
    m'.get? k = if k = key then none else m.get? k := by
  split
  · rename_i heq
    have hdistinct := m.distinct
    rw [hm, List.map_append, List.map_cons] at hdistinct
    refine Option.eq_none_iff_forall_ne_some.mpr fun v hv => ?_
    rw [get?_eq_some_iff, hm', heq] at hv
    refine (List.nodup_middle.mp hdistinct).notMem ?_
    rw [← List.map_append]
    exact List.mem_map.mpr ⟨_, hv, rfl⟩
  · rename_i hne
    unfold get?
    rw [hm, hm']
    exact congrArg _ (find?_drop fun hkey => absurd (beq_iff_eq.mp hkey).symm hne)

/-! ### Marks -/

/-- The attributes that are read from marks of a kind. -/
def MarkKind.attributes : MarkKind → List String
  | .root => []
  | .mandatory => [groupAttribute, messageAttribute]
  | .extension => [extensionForAttribute]

/-- The attribute is read from marks of that name. -/
def MarkNames.Reads (names : MarkNames) (mark key : String) : Prop :=
  ∃ kind, names.get kind = mark ∧ key ∈ kind.attributes

namespace Mark

/-- The second mark is the first without an attribute that is not read, or is no text. -/
structure Trims (names : MarkNames) (m m' : Mark) : Prop where
  name : m'.name = m.name
  without : ∃ before key value after, m.attributes.entries = before ++ (key, value) :: after ∧
    m'.attributes.entries = before ++ after ∧
    (names.Reads m.name key → ∀ text, value ≠ .string text)

/-- Nothing that is read tells the marks apart. -/
structure ReadAlike (names : MarkNames) (m m' : Mark) : Prop where
  name : m'.name = m.name
  text : ∀ key, names.Reads m.name key → m'.text? key = m.text? key

/-- The second list is the first without a mark that is not read, or a part of a mark. -/
inductive TrimsIn (names : MarkNames) : List Mark → List Mark → Prop where
  | foreign (before : List Mark) (m : Mark) (after : List Mark)
      (h : ∀ kind, m.name ≠ names.get kind) : TrimsIn names (before ++ m :: after) (before ++ after)
  | repeated (before : List Mark) (m : Mark) (after : List Mark)
      (h : ∃ b ∈ before, b.name = m.name) : TrimsIn names (before ++ m :: after) (before ++ after)
  | within (before : List Mark) (m m' : Mark) (after : List Mark) (h : m.Trims names m') :
      TrimsIn names (before ++ m :: after) (before ++ m' :: after)

variable {names : MarkNames} {m m' : Mark} {marks marks' : List Mark}

theorem ReadAlike.refl (m : Mark) : m.ReadAlike names m := ⟨rfl, fun _ _ => rfl⟩

theorem Trims.readAlike (h : m.Trims names m') : m.ReadAlike names m' where
  name := h.name
  text := by
    intro k hk
    obtain ⟨before, key, value, after, hm, hm', hread⟩ := h.without
    rw [text?, text?, OrderedMap.get?_cut hm hm']
    split
    · -- the attribute was no text
      rename_i heq
      subst heq
      have hfound : m.attributes.get? k = some value := by
        rw [OrderedMap.get?_eq_some_iff, hm]
        exact List.mem_append_right _ (List.mem_cons_self ..)
      rw [hfound]
      cases value with
      | string text => exact absurd rfl (hread hk text)
      | _ => rfl
    · rfl

theorem TrimsIn.find? (h : TrimsIn names marks marks') (kind : MarkKind) :
    Option.Rel (ReadAlike names) (Mark.find? marks (names.get kind))
      (Mark.find? marks' (names.get kind)) := by
  cases h with
  | foreign _ _ _ h =>
    exact rel_of_eq .refl (find?_drop fun hname => absurd (beq_iff_eq.mp hname) (h kind))
  | repeated _ _ _ h =>
    obtain ⟨b, hb, hname⟩ := h
    refine rel_of_eq .refl (find?_drop fun hm => List.find?_isSome.mpr ⟨b, hb, ?_⟩)
    rw [hname, hm]
  | within _ _ _ _ h => exact find?_replace .refl h.readAlike (by rw [h.name])

/-- A mark of a kind is found in both lists or in none, with the same texts under all attributes
that are read from it. -/
theorem TrimsIn.texts (h : TrimsIn names marks marks') (kind : MarkKind) :
    Option.Rel (fun m m' => ∀ key ∈ kind.attributes, m'.text? key = m.text? key)
      (Mark.find? marks (names.get kind)) (Mark.find? marks' (names.get kind)) := by
  have hfound := h.find? kind
  cases hm : Mark.find? marks (names.get kind) with
  | none =>
    rw [hm] at hfound
    generalize Mark.find? marks' (names.get kind) = o' at hfound ⊢
    cases hfound
    exact .none
  | some m =>
    have hname : m.name = names.get kind := by simpa using List.find?_some hm
    rw [hm] at hfound
    generalize Mark.find? marks' (names.get kind) = o' at hfound ⊢
    cases hfound with
    | some hread => exact .some fun key hkey => hread.text key ⟨kind, hname.symm, hkey⟩

end Mark

/-! ### Methods and classes -/

/-- What a method requires is read from its marks. -/
theorem Requirement.ofMethod?_trim {names : MarkNames} (naming : Naming) {m : MethodDecl}
    {marks : List Mark} (h : Mark.TrimsIn names m.marks marks) :
    ofMethod? names naming { m with marks } = ofMethod? names naming m := by
  have htexts := h.texts .mandatory
  unfold ofMethod?
  dsimp only [MarkNames.get] at htexts ⊢
  generalize Mark.find? m.marks names.mandatory = o, Mark.find? marks names.mandatory = o' at htexts ⊢
  cases htexts with
  | none => rfl
  | some htexts =>
    have hgroup := htexts groupAttribute (List.mem_cons_self ..)
    have hmessage := htexts messageAttribute (List.mem_cons_of_mem _ (List.mem_cons_self ..))
    rw [Option.map_some, Option.map_some, hgroup, hmessage]

namespace ClassDecl

/-- The second class is the first without a fact that makes no difference to the checks. -/
inductive Trims (names : MarkNames) (classes : List ClassDecl) (c : ClassDecl) :
    ClassDecl → Prop where
  | marks (marks : List Mark) (h : Mark.TrimsIn names c.marks marks) :
      Trims names classes c { c with marks }
  | supertype (before : List String) (s : String) (after : List String)
      (hc : c.supertypes = before ++ s :: after) (h : find? classes s = none) :
      Trims names classes c { c with supertypes := before ++ after }
  | method (before : List MethodDecl) (m : MethodDecl) (after : List MethodDecl)
      (hc : c.methods = before ++ m :: after) (h : m.isMandatory names = false) :
      Trims names classes c { c with methods := before ++ after }
  | methodMarks (before : List MethodDecl) (m : MethodDecl) (after : List MethodDecl)
      (marks : List Mark) (hc : c.methods = before ++ m :: after)
      (h : Mark.TrimsIn names m.marks marks) :
      Trims names classes c { c with methods := before ++ { m with marks } :: after }

section
variable {names : MarkNames} {classes : List ClassDecl} {c c' : ClassDecl} {marks : List Mark}

theorem isMarked_trim (h : Mark.TrimsIn names c.marks marks) (kind : MarkKind) :
    { c with marks }.isMarked (names.get kind) = c.isMarked (names.get kind) := by
  have hfound := h.find? kind
  unfold isMarked
  generalize Mark.find? c.marks (names.get kind) = o at hfound ⊢
  generalize Mark.find? _ (names.get kind) = o' at hfound ⊢
  cases hfound <;> rfl

theorem extensionName?_trim (h : Mark.TrimsIn names c.marks marks) :
    { c with marks }.extensionName? names = c.extensionName? names := by
  have htexts := h.texts .extension
  unfold extensionName?
  dsimp only [MarkNames.get] at htexts ⊢
  generalize Mark.find? c.marks names.extension = o, Mark.find? marks names.extension = o' at htexts ⊢
  cases htexts with
  | none => rfl
  | some htexts => exact htexts extensionForAttribute (List.mem_cons_self ..)

theorem Trims.name (h : c.Trims names classes c') : c'.name = c.name := by
  cases h <;> rfl

end

/-- The checks see no difference, among whatever classes the same names are known. -/
theorem Trims.alike {d : Detector} {classes classes' : List ClassDecl} {c c' : ClassDecl}
    (h : c.Trims d.names classes c')
    (hknown : ∀ name, find? classes name = none → find? classes' name = none) :
    Alike d classes' c c' := by
  cases h with
  | marks _ h => exact ⟨rfl, isMarked_trim h .root, extensionName?_trim h, rfl, rfl⟩
  | supertype _ _ _ hc h =>
    refine ⟨rfl, rfl, rfl, ?_, rfl⟩
    simp [hc, isKnown, hknown _ h]
  | method before m after hc h =>
    have hnone : Requirement.ofMethod? d.names d.naming m = none := by
      simpa [h] using Requirement.isSome_ofMethod? d.names d.naming m
    refine ⟨rfl, rfl, rfl, rfl, ?_⟩
    simp [Requirement.marked, hc, hnone]
  | methodMarks before m after marks hc h =>
    refine ⟨rfl, rfl, rfl, rfl, ?_⟩
    simp [Requirement.marked, hc, List.filterMap_cons, Requirement.ofMethod?_trim d.naming h]

end ClassDecl

/-! ### Documents -/

namespace Document

/-- A receiver leads to the class through supertypes and extensions. -/
def Reached (names : MarkNames) (d : Document) (c : ClassDecl) : Prop :=
  ∃ l ∈ d.lambdas, ∃ start, ClassDecl.find? d.classes l.receiver = some start ∧
    ReflTransGen (fun c p => ClassDecl.InheritsFrom d.classes c p ∨
      ClassDecl.Extends names d.classes c p) start c

/-- What holds the receivers and is closed under supertypes and extensions holds all that is
reached. -/
theorem Reached.mem {names : MarkNames} {d : Document} {c : ClassDecl} (h : d.Reached names c)
    {held : List ClassDecl}
    (hreceivers : ∀ l ∈ d.lambdas, ∀ c, ClassDecl.find? d.classes l.receiver = some c → c ∈ held)
    (hlinks : ∀ b ∈ held, ∀ c, ClassDecl.InheritsFrom d.classes b c ∨
      ClassDecl.Extends names d.classes b c → c ∈ held) : c ∈ held := by
  obtain ⟨l, hl, start, hstart, hreach⟩ := h
  induction hreach with
  | refl => exact hreceivers l hl start hstart
  | tail _ hlink ih => exact hlinks _ ih _ hlink

/-- The second document is the first without a fact that makes no difference to the checks. -/
inductive Trims (names : MarkNames) (d : Document) : Document → Prop where
  | redeclared (before : List ClassDecl) (c : ClassDecl) (after : List ClassDecl)
      (hd : d.classes = before ++ c :: after) (h : ∃ b ∈ before, b.name = c.name) :
      Trims names d { d with classes := before ++ after }
  | unreached (before : List ClassDecl) (c : ClassDecl) (after : List ClassDecl)
      (hd : d.classes = before ++ c :: after) (h : ¬d.Reached names c) :
      Trims names d { d with classes := before ++ after }
  | within (before : List ClassDecl) (c c' : ClassDecl) (after : List ClassDecl)
      (hd : d.classes = before ++ c :: after) (h : c.Trims names d.classes c') :
      Trims names d { d with classes := before ++ c' :: after }

/-- A lambda or a class that a receiver leads to mentions the name. -/
def Mentions (names : MarkNames) (d : Document) (name : String) : Prop :=
  (∃ l ∈ d.lambdas, l.receiver = name) ∨
    ∃ c, d.Reached names c ∧ (name ∈ c.supertypes ∨ c.extensionName? names = some name)

theorem Mentions.reached {names : MarkNames} {d : Document} {name : String} {c : ClassDecl}
    (h : d.Mentions names name) (hc : ClassDecl.find? d.classes name = some c) :
    d.Reached names c := by
  rcases h with ⟨l, hl, rfl⟩ | ⟨b, ⟨l, hl, start, hstart, hreach⟩, hb⟩
  · exact ⟨l, hl, c, hc, .refl⟩
  · refine ⟨l, hl, start, hstart, hreach.tail ?_⟩
    rcases hb with hb | hb
    · exact .inl ⟨name, hb, hc⟩
    · obtain ⟨mark, hmark, htext⟩ := Option.bind_eq_some_iff.mp hb
      exact .inr ⟨mark, name, hmark, htext, hc⟩

/-- The documents agree on the names that are mentioned. -/
theorem Trims.agree {det : Detector} {d d' : Document} (h : d.Trims det.names d') :
    ClassDecl.Agree det (d.Mentions det.names) d.classes d'.classes where
  supertypes := fun _ c hname hc _ hs => .inr ⟨c, hname.reached hc, .inl hs⟩
  extension := fun _ c hname hc _ ht => .inr ⟨c, hname.reached hc, .inr ht⟩
  found := by
    intro name hname
    cases h with
    | redeclared before c after hd h =>
      obtain ⟨b, hb, hbc⟩ := h
      rw [hd]
      refine rel_of_eq (.refl det _) (find?_drop fun hc => List.find?_isSome.mpr ⟨b, hb, ?_⟩)
      rw [hbc, hc]
    | unreached before c after hd h =>
      rw [hd]
      refine rel_of_eq (.refl det _) (find?_drop fun hc => ?_)
      by_contra hnone
      rw [Option.not_isSome_iff_eq_none] at hnone
      refine h (hname.reached ?_)
      rw [ClassDecl.find?, hd, List.find?_append, hnone, Option.none_or, List.find?_cons, hc]
    | within before c c' after hd h =>
      rw [hd]
      refine find?_replace (.refl det _) (h.alike fun s hs => ?_) (by rw [h.name])
      rw [hd] at hs
      simpa [ClassDecl.find?, h.name] using hs

theorem Trims.lambdas {names : MarkNames} {d d' : Document} (h : d.Trims names d') :
    d'.lambdas = d.lambdas := by
  cases h <;> rfl

end Document

namespace Checker

theorem checkDocument_of_trim (c : Checker) {d d' : Document} (h : d.Trims c.detector.names d')
    (fallback : String) : c.checkDocument d' fallback = c.checkDocument d fallback := by
  unfold checkDocument
  rw [h.lambdas]
  split
  · refine List.foldl_ext _ _ _ fun o l hl => ?_
    rw [c.checkLambda_of_agree h.agree fallback (.inl ⟨l, hl, rfl⟩)]
  · rfl

/-- **Facts that make no difference can go.** They are taken out one after the other, each one when
it makes no difference in what the others have left, and the outcome of the document stays the
same. -/
theorem checkDocument_of_trims {config : Config} {c : Checker} (hconfig : ofConfig config = .ok c)
    {d d' : Document} (h : ReflTransGen (Document.Trims config.markNames) d d')
    (fallback : String) : c.checkDocument d' fallback = c.checkDocument d fallback := by
  have hnames : c.detector.names = config.markNames := by rw [(ofConfig_eq_ok hconfig).2.1]
  rw [← hnames] at h
  induction h with
  | refl => rfl
  | tail _ hlast ih => rw [c.checkDocument_of_trim hlast, ih]

section Essential

def rootMark : Mark := { name := MarkKind.root.qualifiedName defaultPackage }

def limitsMark (more : List (String × Json.Value)) : Mark where
  name := MarkKind.mandatory.qualifiedName defaultPackage
  attributes := .ofList ((groupAttribute, .string "limits") :: more)

/-- A document with a fact of every sort that makes no difference. -/
def wordy : Document where
  classes :=
    [{ name := "Server", supertypes := ["Base", "Closeable"],
       marks := [rootMark, { name := "Deprecated" }] },
      { name := "Base",
        methods := [{ name := "setRetries", marks := [limitsMark [(messageAttribute, .null)]] },
          { name := "toString" }] },
      { name := "Server" },
      { name := "Client" }]
  lambdas := [{ receiver := "Server" }]

/-- What is left of it. -/
def essential : Document where
  classes :=
    [{ name := "Server", supertypes := ["Base"], marks := [rootMark] },
      { name := "Base", methods := [{ name := "setRetries", marks := [limitsMark []] }] }]
  lambdas := [{ receiver := "Server" }]

def essentialAndClient : Document :=
  { essential with classes := essential.classes ++ [{ name := "Client" }] }

theorem not_reached_client :
    ¬essentialAndClient.Reached (.ofPackage defaultPackage) { name := "Client" } := by
  intro h
  have hclient : { name := "Client" } ∈ essential.classes := by
    refine h.mem (fun l hl c hc => ?_) (fun b hb c hlink => ?_)
    · rw [List.mem_singleton.mp hl] at hc
      rw [← Option.some.inj hc]
      exact List.mem_cons_self ..
    · rcases hlink with ⟨name, hname, hc⟩ | hextends
      · simp only [essential, List.mem_cons, List.not_mem_nil, or_false] at hb
        rcases hb with rfl | rfl
        · rw [List.mem_singleton.mp hname] at hc
          rw [← Option.some.inj hc]
          exact List.mem_cons_of_mem _ (List.mem_cons_self ..)
        · cases hname
      · have hnone : ∀ b ∈ essential.classes, ClassDecl.extended? (.ofPackage defaultPackage)
            essentialAndClient.classes b = none := by decide
        rw [ClassDecl.extends_iff, hnone b hb] at hextends
        cases hextends
  simp [essential] at hclient

theorem wordy_trims_essential :
    ReflTransGen (Document.Trims (.ofPackage defaultPackage)) wordy essential := by
  have hmessage : (limitsMark [(messageAttribute, .null)]).Trims (.ofPackage defaultPackage)
      (limitsMark []) :=
    ⟨rfl, [_], messageAttribute, .null, [], rfl, rfl, fun _ _ h => nomatch h⟩
  refine .head (.within [] _ _ _ rfl (.marks _ (.foreign [_] _ _ ?_))) ?_
  · intro kind
    cases kind <;> decide
  refine .head (.within [] _ _ _ rfl (.supertype ["Base"] _ _ rfl rfl)) ?_
  refine .head (.within [_] _ _ _ rfl (.method [_] _ _ rfl rfl)) ?_
  refine .head (.within [_] _ _ _ rfl
    (.methodMarks [] _ _ _ rfl (.within [] _ _ _ hmessage))) ?_
  refine .head (.redeclared [_, _] _ _ rfl ⟨_, List.mem_cons_self .., rfl⟩) ?_
  exact .single (.unreached [_, _] _ _ rfl not_reached_client)

theorem checkDocument_of_trims_essential :
    ∃ c, ofConfig {} = .ok c ∧
      ReflTransGen (Document.Trims ({} : Config).markNames) wordy essential ∧
      c.checkDocument essential "facts.yaml" = c.checkDocument wordy "facts.yaml" := by
  have hconfig : ofConfig {} = .ok ⟨⟨.ofPackage defaultPackage, .bean, .error⟩, ⟨[]⟩, true⟩ := rfl
  exact ⟨_, hconfig, wordy_trims_essential, checkDocument_of_trims hconfig wordy_trims_essential _⟩

end Essential

end Checker
end BuilderLint
