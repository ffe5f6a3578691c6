import BuilderLint.Proofs.Grouping
import BuilderLint.Proofs.Ungrouped

/-! Setters and the properties they set.

A setter's name is `set` and a part that starts with a capital. The property is this part,
kept as it is when its second character is a capital too, and begun small otherwise. As
long as the part starts in ASCII, either way is undone by the capital of the property's
first letter, so the setter's name can be read back from the property (`eq_setterFor`). No
two such setters set the same property, and a name that two methods require is set by the
one and called by the other (`bean_tells_setters_apart`). In a class with such setters only,
a name and a way of using it make one requirement at most (`nodup_discover`). Beyond ASCII
two setters can meet, where two capitals have the same small form. -/
namespace BuilderLint

/-! ### Capitals in ASCII -/

namespace Text
variable {c : Char}

theorem isCapital_of_ascii (h : c.toNat < 128) : isCapital c = c.isUpper := if_pos h

theorem small_of_ascii (h : c.toNat < 128) : small c = [c.toLower] := if_pos h

/-- A property of the capitals in ASCII, checked letter by letter. -/
theorem forall_isUpper {P : Char → Prop} (hletters : ∀ n < 26, P (Char.ofNat (65 + n)))
    (h : c.isUpper = true) : P c := by
  have hval : 'A'.val ≤ c.val ∧ c.val ≤ 'Z'.val := of_decide_eq_true h
  have hrange : 65 ≤ c.toNat ∧ c.toNat ≤ 90 :=
    ⟨UInt32.le_iff_toNat_le.mp hval.1, UInt32.le_iff_toNat_le.mp hval.2⟩
  have hletter := hletters (c.toNat - 65) (by omega)
  rwa [Nat.add_sub_cancel' hrange.1, Char.ofNat_toNat] at hletter

theorem toUpper_of_isUpper (h : c.isUpper = true) : c.toUpper = c :=
  forall_isUpper (P := fun c => c.toUpper = c) (by decide) h

theorem toUpper_toLower_of_isUpper (h : c.isUpper = true) : c.toLower.toUpper = c :=
  forall_isUpper (P := fun c => c.toLower.toUpper = c) (by decide) h

theorem isLower_toLower_of_isUpper (h : c.isUpper = true) : c.toLower.isLower = true :=
  forall_isUpper (P := fun c => c.toLower.isLower = true) (by decide) h

theorem toLower_ne_of_isUpper (h : c.isUpper = true) : c.toLower ≠ c :=
  forall_isUpper (P := fun c => c.toLower ≠ c) (by decide) h

end Text

/-! ### Names of setters -/

namespace Naming

/-- Whether a part keeps its first capital, by what stands behind it. -/
def keepsCapital (rest : List Char) : Bool := rest.head?.any Text.isCapital

theorem keepsCapital_iff (rest : List Char) :
    keepsCapital rest = true ↔ ∃ second ∈ rest.head?, Text.isCapital second = true :=
  Option.any_eq_true ..

theorem setterPart?_cons {first : Char} (h : Text.isCapital first = true) (rest : List Char) :
    setterPart? ('s' :: 'e' :: 't' :: first :: rest) = some (first :: rest) := if_pos h

theorem decapitalize_cons {first : Char} (h : Text.isCapital first = true) (rest : List Char) :
    decapitalize (first :: rest) =
      (if keepsCapital rest then [first] else Text.small first) ++ rest := by
  cases rest with
  | nil => simp [decapitalize, keepsCapital]
  | cons second rest =>
    cases hsecond : Text.isCapital second with
    | true => simp [decapitalize, keepsCapital, h, hsecond]
    | false => simp [decapitalize, keepsCapital, hsecond]

theorem isSetter_iff (name : String) :
    isSetter name = true ↔
      ∃ first rest, name = "set" ++ String.ofList (first :: rest) ∧ Text.isCapital first = true := by
  constructor
  · intro h
    obtain ⟨part, hpart⟩ := Option.isSome_iff_exists.mp h
    unfold setterPart? at hpart
    split at hpart
    · next first rest hname =>
      split at hpart
      · next hfirst => exact ⟨first, rest, String.toList_inj.mp (by simp [hname]), hfirst⟩
      · cases hpart
    · cases hpart
  · intro h
    obtain ⟨first, rest, rfl, hfirst⟩ := h
    simp [isSetter, setterPart?_cons hfirst]

theorem isSome_property? (name : String) : (bean.property? name).isSome = isSetter name := by
  simp [bean, beanProperty?, isSetter]

theorem isSetter_of_property? {name property : String}
    (h : bean.property? name = some property) : isSetter name = true := by
  rw [← isSome_property?, h, Option.isSome_some]

theorem property?_eq_none_iff (name : String) :
    bean.property? name = none ↔ isSetter name = false := by
  rw [← isSome_property?, Option.isSome_eq_false_iff, Option.isNone_iff_eq_none]

/-- A setter that goes on in ASCII behind `set`. -/
structure AsciiSetter (name : String) : Prop where
  setter : isSetter name = true
  ascii : ∀ c ∈ name.toList[3]?, c.toNat < 128

/-- Such a setter goes on with a capital that has a small form of its own. -/
theorem AsciiSetter.exists_part {name : String} (h : AsciiSetter name) :
    ∃ first rest, name = "set" ++ String.ofList (first :: rest) ∧ first.isUpper = true ∧
      bean.property? name =
        some (String.ofList ((if keepsCapital rest then first else first.toLower) :: rest)) := by
  obtain ⟨first, rest, rfl, hfirst⟩ := (isSetter_iff name).mp h.setter
  have hascii : first.toNat < 128 := h.ascii first (by simp)
  refine ⟨first, rest, rfl, ?_, ?_⟩
  · rwa [← Text.isCapital_of_ascii hascii]
  · have hproperty : bean.property? ("set" ++ String.ofList (first :: rest)) =
        some (String.ofList (decapitalize (first :: rest))) := by
      simp [bean, beanProperty?, setterPart?_cons hfirst]
    rw [hproperty, decapitalize_cons hfirst, Text.small_of_ascii hascii]
    split <;> rfl

/-! ### Reading a setter back -/

/-- `set` and the property, begun with a capital. -/
def setterFor (property : String) : String :=
  match property.toList with
  | [] => "set"
  | first :: rest => "set" ++ String.ofList (first.toUpper :: rest)

/-- Kept or begun small, the first letter has the same capital. -/
theorem AsciiSetter.eq_setterFor {name property : String} (h : AsciiSetter name)
    (hproperty : bean.property? name = some property) : name = setterFor property := by
  obtain ⟨first, rest, rfl, hfirst, hset⟩ := h.exists_part
  rw [hset, Option.some.injEq] at hproperty
  subst hproperty
  cases keepsCapital rest with
  | true => simp [setterFor, Text.toUpper_of_isUpper hfirst]
  | false => simp [setterFor, Text.toUpper_toLower_of_isUpper hfirst]

theorem AsciiSetter.property?_inj {a b : String} (ha : AsciiSetter a) (hb : AsciiSetter b) :
    bean.property? a = bean.property? b ↔ a = b := by
  constructor
  · intro h
    obtain ⟨p, hp⟩ := Option.isSome_iff_exists.mp ((isSome_property? a).trans ha.setter)
    rw [ha.eq_setterFor hp, hb.eq_setterFor (h ▸ hp)]
  · intro h
    rw [h]

/-- A setter, and a plain function that has the name of its property. -/
def SetsNameOf (setter function : String) : Prop :=
  bean.property? setter = some function ∧ isSetter function = false

end Naming

/-! ### Names of requirements -/

/-- What is required is the property that the method sets, or a call of the method. -/
theorem Requirement.kind_of_ofMethod? {names : MarkNames} {naming : Naming} {m : MethodDecl}
    {r : Requirement} (h : ofMethod? names naming m = some r) :
    (r.kind = .property ∧ naming.property? m.name = some r.name) ∨
      (r.kind = .function ∧ naming.property? m.name = none ∧ r.name = m.name) := by
  obtain ⟨mark, -, rfl⟩ := Option.map_eq_some_iff.mp h
  cases hproperty : naming.property? m.name with
  | none => exact .inr ⟨rfl, rfl, rfl⟩
  | some property => exact .inl ⟨rfl, rfl⟩

namespace Detector
variable (d : Detector) (methods : List MethodDecl) {m m' : String} {r r' : Requirement}

theorem kind_of_required? (h : d.required? methods m = some r) :
    (r.kind = .property ∧ d.naming.property? m = some r.name) ∨
      (r.kind = .function ∧ d.naming.property? m = none ∧ r.name = m) := by
  obtain ⟨x, -, -, rfl, hr⟩ := Requirement.exists_of_get?_byMethod d.names d.naming h
  exact Requirement.kind_of_ofMethod? hr

/-- Two methods that require the same name are a setter and a plain function. -/
theorem setter_or_function (hbean : d.naming = .bean) (hr : d.required? methods m = some r)
    (hr' : d.required? methods m' = some r') (hne : m ≠ m') (hname : r.name = r'.name)
    (hm : Naming.isSetter m = true → Naming.AsciiSetter m)
    (hm' : Naming.isSetter m' = true → Naming.AsciiSetter m') :
    (r.kind = .property ∧ r'.kind = .function ∧ Naming.SetsNameOf m m') ∨
      (r.kind = .function ∧ r'.kind = .property ∧ Naming.SetsNameOf m' m) := by
  have hkind := d.kind_of_required? methods hr
  have hkind' := d.kind_of_required? methods hr'
  rw [hbean] at hkind hkind'
  rcases hkind with ⟨hk, hp⟩ | ⟨hk, hp, rfl⟩ <;> rcases hkind' with ⟨hk', hp'⟩ | ⟨hk', hp', rfl⟩
  · -- two setters of one property are the same setter
    have ha := hm (Naming.isSetter_of_property? hp)
    have hb := hm' (Naming.isSetter_of_property? hp')
    exact absurd ((ha.property?_inj hb).mp (by rw [hp, hp', hname])) hne
  · exact .inl ⟨hk, hk', hname ▸ hp, (Naming.property?_eq_none_iff _).mp hp'⟩
  · exact .inr ⟨hk, hk', hname ▸ hp', (Naming.property?_eq_none_iff _).mp hp⟩
  · -- a plain function is required under its own name
    exact absurd hname hne

/-- No two requirements of a class agree in name and kind when its setters go on in ASCII. -/
theorem nodup_discover (hbean : d.naming = .bean)
    (hascii : ∀ x ∈ methods, x.isMandatory d.names = true → Naming.isSetter x.name = true →
      Naming.AsciiSetter x.name) :
    ((d.discover methods).values.flatten.map fun r => (r.name, r.kind)).Nodup := by
  let required := Requirement.byMethod d.names d.naming methods
  have hperm : (d.discover methods).values.flatten.Perm required.values :=
    (Groups.lawful_ofRequirements _).complete
  have hkey : ∀ {e : String × Requirement}, e ∈ required.entries →
      Naming.isSetter e.1 = true → Naming.AsciiSetter e.1 := by
    intro e he hsetter
    have hread := (required.get?_eq_some_iff e.1 e.2).mpr he
    obtain ⟨x, hx, hmarked, hname, -⟩ := Requirement.exists_of_get?_byMethod d.names d.naming hread
    rw [← hname] at hsetter ⊢
    exact hascii x hx hmarked hsetter
  rw [(hperm.map _).nodup_iff, OrderedMap.values, List.map_map, List.Nodup, List.pairwise_map]
  have hdistinct := required.distinct
  rw [List.Nodup, List.pairwise_map] at hdistinct
  refine hdistinct.imp_of_mem fun {e e'} he he' hne heq => ?_
  obtain ⟨hname, hkind⟩ := Prod.mk.inj heq
  have hr := (required.get?_eq_some_iff e.1 e.2).mpr he
  have hr' := (required.get?_eq_some_iff e'.1 e'.2).mpr he'
  have hkinds : e.2.kind ≠ e'.2.kind := by
    rcases d.setter_or_function methods hbean hr hr' hne hname (hkey he) (hkey he') with
      ⟨hk, hk', -⟩ | ⟨hk, hk', -⟩ <;> simp [hk, hk']
  exact hkinds hkind

end Detector

namespace Naming

/-- **Setters are told apart by what they set.** Setters that go on in ASCII set the same property
only if they are the same setter. The property is the part behind `set`, when this has a second
character and that is a capital; otherwise it is the part with the small form of its first letter.
So of two methods that require the same name one is a setter and the other a plain function of
that name. -/
theorem bean_tells_setters_apart :
    (∀ a b, AsciiSetter a → AsciiSetter b → (bean.property? a = bean.property? b ↔ a = b)) ∧
    (∀ name, AsciiSetter name → ∃ first rest p,
      name = "set" ++ String.ofList (first :: rest) ∧ bean.property? name = some p ∧
      (p = String.ofList (first :: rest) ↔
        ∃ second ∈ rest.head?, Text.isCapital second = true) ∧
      (p ≠ String.ofList (first :: rest) → p = String.ofList (first.toLower :: rest) ∧
        first.isUpper = true ∧ first.toLower.isLower = true)) ∧
    ∀ (d : Detector) (methods : List MethodDecl) (m m' : String) (r r' : Requirement),
      d.naming = .bean → d.required? methods m = some r → d.required? methods m' = some r' →
      m ≠ m' → r.name = r'.name → (isSetter m = true → AsciiSetter m) →
      (isSetter m' = true → AsciiSetter m') →
        (r.kind = .property ∧ r'.kind = .function ∧ SetsNameOf m m') ∨
          (r.kind = .function ∧ r'.kind = .property ∧ SetsNameOf m' m) := by
  refine ⟨fun a b ha hb => ha.property?_inj hb, ?_, ?_⟩
  · intro name h
    obtain ⟨first, rest, hname, hfirst, hset⟩ := h.exists_part
    refine ⟨first, rest, _, hname, hset, ?_, ?_⟩
    · rw [← keepsCapital_iff, String.ofList_inj, List.cons.injEq, and_iff_left rfl]
      cases keepsCapital rest with
      | true => simp
      | false => simp [Text.toLower_ne_of_isUpper hfirst]
    · intro hchanged
      cases hkeeps : keepsCapital rest with
      | true => simp [hkeeps] at hchanged
      | false => exact ⟨rfl, hfirst, Text.isLower_toLower_of_isUpper hfirst⟩
  · intro d methods m m' r r' hbean hr hr' hne hname hm hm'
    exact d.setter_or_function methods hbean hr hr' hne hname hm hm'

/-- An acronym and a word behind `set`, and a name that is set and called. -/
theorem bean_tells_setters_apart_url :
    let d : Detector := ⟨.ofPackage defaultPackage, .bean, .error⟩
    let assigned : Requirement := ⟨"timeout", .property, some "limits", none⟩
    let called : Requirement := ⟨"timeout", .function, some "retries", none⟩
    (AsciiSetter "setURL" ∧ AsciiSetter "setUrl" ∧
      bean.property? "setURL" ≠ bean.property? "setUrl") ∧
    bean.property? "setUrl" = some (String.ofList ['U'.toLower, 'r', 'l']) ∧
    (d.required? Detector.sameName "setTimeout" = some assigned ∧
      d.required? Detector.sameName "timeout" = some called ∧
      AsciiSetter "setTimeout" ∧ isSetter "timeout" = false ∧
      SetsNameOf "setTimeout" "timeout") := by
  intro d assigned called
  obtain ⟨hinj, hforms, hshared⟩ := bean_tells_setters_apart
  have hURL : AsciiSetter "setURL" := ⟨by decide, by simp⟩
  have hUrl : AsciiSetter "setUrl" := ⟨by decide, by simp⟩
  have hTimeout : AsciiSetter "setTimeout" := ⟨by decide, by simp⟩
  have hplain : isSetter "timeout" = false := by decide
  have hassigned : d.required? Detector.sameName "setTimeout" = some assigned := by decide
  have hcalled : d.required? Detector.sameName "timeout" = some called := by decide
  refine ⟨⟨hURL, hUrl, fun h => ?_⟩, ?_, hassigned, hcalled, hTimeout, hplain, ?_⟩
  · exact absurd ((hinj "setURL" "setUrl" hURL hUrl).mp h) (by decide)
  · obtain ⟨first, rest, p, hname, hset, hkept, hsmall⟩ := hforms "setUrl" hUrl
    have hpart : first = 'U' ∧ rest = ['r', 'l'] := by
      simpa [← String.toList_inj, eq_comm] using hname
    obtain ⟨rfl, rfl⟩ := hpart
    have hword : Text.isCapital 'r' = false := by decide
    have hchanged : p ≠ String.ofList ['U', 'r', 'l'] := by
      rw [ne_eq, hkept]
      simp [hword]
    rw [hset, (hsmall hchanged).1]
  · have hkinds := hshared d Detector.sameName "setTimeout" "timeout" assigned called rfl hassigned
      hcalled (by decide) rfl (fun _ => hTimeout) fun h => absurd h (by simp [hplain])
    rcases hkinds with ⟨-, -, hsets⟩ | ⟨hkind, -⟩
    · exact hsets
    · cases hkind

/-- The Kelvin sign is no ASCII character and has the small form of the letter K. -/
example : bean.property? "set\u212a" = bean.property? "setK" := by decide

end Naming
end BuilderLint
