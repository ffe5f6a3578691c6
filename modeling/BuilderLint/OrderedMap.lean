/-! Maps from texts to values that remember the order of their keys.

A key keeps the place at which it first came in, whatever is written under it
later. Attributes, groups of requirements and counts are all read back in that
order. A map is its list of entries, and no key occurs twice in it. -/
namespace BuilderLint

/-- Entries under distinct keys, in the order in which the keys came in. -/
structure OrderedMap (β : Type) where
  entries : List (String × β)
  distinct : (entries.map Prod.fst).Nodup

namespace OrderedMap
variable {β γ : Type}

@[ext] theorem ext {a b : OrderedMap β} (h : a.entries = b.entries) : a = b := by
  cases a
  cases b
  cases h
  rfl

def empty : OrderedMap β := ⟨[], List.nodup_nil⟩

instance : EmptyCollection (OrderedMap β) := ⟨empty⟩

def keys (m : OrderedMap β) : List String := m.entries.map Prod.fst
def values (m : OrderedMap β) : List β := m.entries.map Prod.snd

def get? (m : OrderedMap β) (key : String) : Option β :=
  (m.entries.find? fun e => e.1 == key).map Prod.snd

/-! ### Writing under a key -/

/-- Writes `f` of what stands under the key, in place, or at the end when nothing does. -/
def alterEntries (key : String) (f : Option β → β) : List (String × β) → List (String × β)
  | [] => [(key, f none)]
  | (k, v) :: rest => if k = key then (k, f (some v)) :: rest else (k, v) :: alterEntries key f rest

theorem alterEntries_keys (key : String) (f : Option β → β) (entries : List (String × β)) :
    (alterEntries key f entries).map Prod.fst =
      if key ∈ entries.map Prod.fst then entries.map Prod.fst
      else entries.map Prod.fst ++ [key] := by
  induction entries with
  | nil => simp [alterEntries]
  | cons e rest ih =>
    obtain ⟨k, v⟩ := e
    by_cases hk : k = key
    · simp [alterEntries, hk]
    · simp only [alterEntries, hk, if_false, List.map_cons, ih, List.mem_cons]
      by_cases hr : key ∈ rest.map Prod.fst
      · simp [hr]
      · simp [hr, Ne.symm hk]

theorem alterEntries_distinct (key : String) (f : Option β → β) {entries : List (String × β)}
    (h : (entries.map Prod.fst).Nodup) : ((alterEntries key f entries).map Prod.fst).Nodup := by
  rw [alterEntries_keys]
  split
  · exact h
  · rename_i hk
    rw [List.nodup_append]
    exact ⟨h, by simp, by intro a ha b hb; simp at hb; subst hb; rintro rfl; exact hk ha⟩

/-- Writes `f` of what stands under `key`, in place, or at the end when nothing does. -/
def alter (m : OrderedMap β) (key : String) (f : Option β → β) : OrderedMap β :=
  ⟨alterEntries key f m.entries, alterEntries_distinct key f m.distinct⟩

/-- Writes a value under a key. -/
def insert (m : OrderedMap β) (key : String) (value : β) : OrderedMap β :=
  m.alter key fun _ => value

/-- The entries written one after the other: a later value replaces an earlier one in place. -/
def ofList (entries : List (String × β)) : OrderedMap β :=
  entries.foldl (fun m e => m.insert e.1 e.2) ∅

/-- The entries written one after the other: the first value under a key stands. -/
def firstOfEach (entries : List (String × β)) : OrderedMap β :=
  entries.foldl (fun m e => m.alter e.1 fun old => old.getD e.2) ∅

theorem keys_alter (m : OrderedMap β) (key : String) (f : Option β → β) :
    (m.alter key f).keys = if key ∈ m.keys then m.keys else m.keys ++ [key] :=
  alterEntries_keys key f m.entries

/-! ### Reading a key -/

@[simp] theorem keys_empty : (∅ : OrderedMap β).keys = [] := rfl

@[simp] theorem get?_empty (key : String) : (∅ : OrderedMap β).get? key = none := rfl

theorem find?_alterEntries (key k : String) (f : Option β → β) (entries : List (String × β)) :
    ((alterEntries key f entries).find? fun e => e.1 == k).map Prod.snd =
      if k = key then some (f ((entries.find? fun e => e.1 == key).map Prod.snd))
      else (entries.find? fun e => e.1 == k).map Prod.snd := by
  induction entries with
  | nil =>
    by_cases hk : k = key
    · simp [alterEntries, hk]
    · simp [alterEntries, hk, beq_eq_false_iff_ne.mpr (Ne.symm hk)]
  | cons e rest ih =>
    obtain ⟨k', v⟩ := e
    by_cases hkey : k' = key
    · subst hkey
      by_cases hk : k = k'
      · simp [alterEntries, hk]
      · simp [alterEntries, hk, beq_eq_false_iff_ne.mpr (Ne.symm hk)]
    · simp only [alterEntries, hkey, if_false, List.find?_cons, beq_eq_false_iff_ne.mpr hkey]
      by_cases hk : k' = k
      · have hne : ¬k = key := fun h => hkey (hk.trans h)
        simp [hk, hne]
      · simp only [beq_eq_false_iff_ne.mpr hk]
        exact ih

/-- A write is read back under its key, and seen nowhere else. -/
theorem get?_alter (m : OrderedMap β) (key k : String) (f : Option β → β) :
    (m.alter key f).get? k = if k = key then some (f (m.get? key)) else m.get? k :=
  find?_alterEntries key k f m.entries

theorem nodup_keys (m : OrderedMap β) : m.keys.Nodup := m.distinct

theorem find?_of_mem {entries : List (String × β)} (h : (entries.map Prod.fst).Nodup)
    {e : String × β} (he : e ∈ entries) : (entries.find? fun x => x.1 == e.1) = some e := by
  induction entries with
  | nil => cases he
  | cons x rest ih =>
    obtain ⟨hx, hrest⟩ := List.nodup_cons.mp h
    rcases List.mem_cons.mp he with rfl | he
    · simp
    · have hne : x.1 ≠ e.1 := fun heq => hx (heq ▸ List.mem_map_of_mem he)
      rw [List.find?_cons, beq_eq_false_iff_ne.mpr hne]
      exact ih hrest he

theorem get?_eq_some_iff (m : OrderedMap β) (key : String) (v : β) :
    m.get? key = some v ↔ (key, v) ∈ m.entries := by
  constructor
  · intro h
    obtain ⟨e, he, rfl⟩ := Option.map_eq_some_iff.mp h
    have hkey : e.1 = key := by simpa using List.find?_some he
    exact hkey ▸ List.mem_of_find?_eq_some he
  · intro h
    simp only [get?, find?_of_mem m.distinct h, Option.map_some]

/-- No more than one entry stands under a key. -/
theorem filter_entries (m : OrderedMap β) (key : String) :
    (m.entries.filter fun e => e.1 == key).map Prod.snd = (m.get? key).toList := by
  cases h : m.get? key with
  | none =>
    have hnone : ∀ e ∈ m.entries, ¬(e.1 == key) = true := by
      simpa [get?] using h
    rw [List.filter_eq_nil_iff.mpr hnone]
    rfl
  | some v =>
    obtain ⟨before, after, hsplit⟩ := List.append_of_mem ((m.get?_eq_some_iff key v).mp h)
    have hdistinct := m.distinct
    simp only [hsplit, List.map_append, List.map_cons, List.nodup_append, List.nodup_cons] at hdistinct
    obtain ⟨-, ⟨hafter, -⟩, hbefore⟩ := hdistinct
    have hleft : before.filter (fun e => e.1 == key) = [] :=
      List.filter_eq_nil_iff.mpr fun e he => by
        simpa using hbefore e.1 (List.mem_map_of_mem he) key (List.mem_cons_self ..)
    have hright : after.filter (fun e => e.1 == key) = [] :=
      List.filter_eq_nil_iff.mpr fun e he => by
        simpa using fun heq : e.1 = key => hafter (heq ▸ List.mem_map_of_mem he)
    simp [hsplit, hleft, hright]

/-- A map is its keys, in order, with what is read under them. -/
theorem entries_eq_map_keys (m : OrderedMap β) (value : String → β)
    (h : ∀ key ∈ m.keys, m.get? key = some (value key)) :
    m.entries = m.keys.map fun key => (key, value key) := by
  rw [keys, List.map_map]
  refine (List.map_id m.entries).symm.trans (List.map_congr_left fun e he => ?_)
  have hread := (m.get?_eq_some_iff e.1 e.2).mpr he
  have hvalue := h e.1 (List.mem_map_of_mem he)
  rw [hread, Option.some.injEq] at hvalue
  exact Prod.ext rfl hvalue

/-! ### Writing one key after the other

The keys stand in the order of their first occurrence, and what stands under a key
is what the writes to that key have made of it. -/

theorem eraseDups_of_nodup {l : List String} (h : l.Nodup) : l.eraseDups = l := by
  induction l with
  | nil => rfl
  | cons a rest ih =>
    obtain ⟨ha, hrest⟩ := List.nodup_cons.mp h
    rw [List.eraseDups_cons, List.filter_eq_self.mpr, ih hrest]
    intro b hb
    simpa using fun heq : b = a => ha (heq ▸ hb)

theorem nodup_eraseDups (l : List String) : l.eraseDups.Nodup := by
  match l with
  | [] => exact List.nodup_nil
  | a :: rest =>
    have : (rest.filter fun b => !b == a).length < rest.length + 1 :=
      Nat.lt_succ_of_le (List.length_filter_le ..)
    rw [List.eraseDups_cons, List.nodup_cons]
    exact ⟨by simp, nodup_eraseDups _⟩
termination_by l.length

theorem eraseDups_append_eraseDups (a b : List String) :
    (a.eraseDups ++ b).eraseDups = (a ++ b).eraseDups := by
  rw [List.eraseDups_append, List.eraseDups_append, eraseDups_of_nodup (nodup_eraseDups a)]
  congr 2
  exact List.filter_congr fun x _ => by simp [List.elem_eq_contains]

theorem keys_alter_eq_eraseDups (m : OrderedMap β) (key : String) (f : Option β → β) :
    (m.alter key f).keys = (m.keys ++ [key]).eraseDups := by
  rw [keys_alter, List.eraseDups_append, eraseDups_of_nodup m.nodup_keys]
  by_cases h : key ∈ m.keys <;> simp [h, List.removeAll, List.eraseDups_cons]

variable {α : Type} (key : α → String) (f : α → Option β → β)

theorem keys_foldl_alter (l : List α) (m : OrderedMap β) :
    (l.foldl (fun m x => m.alter (key x) (f x)) m).keys = (m.keys ++ l.map key).eraseDups := by
  induction l generalizing m with
  | nil => simp [eraseDups_of_nodup m.nodup_keys]
  | cons x rest ih =>
    rw [List.foldl_cons, ih, keys_alter_eq_eraseDups, eraseDups_append_eraseDups]
    simp

theorem get?_foldl_alter (l : List α) (m : OrderedMap β) (k : String) :
    (l.foldl (fun m x => m.alter (key x) (f x)) m).get? k =
      (l.filter fun x => key x == k).foldl (fun old x => some (f x old)) (m.get? k) := by
  induction l generalizing m with
  | nil => rfl
  | cons x rest ih =>
    rw [List.foldl_cons, ih, get?_alter, List.filter_cons]
    by_cases hk : key x = k
    · simp [hk]
    · simp [hk, Ne.symm hk]

/-- The first value under each key stands, in the order of the keys. -/
theorem keys_firstOfEach (entries : List (String × β)) :
    (firstOfEach entries).keys = (entries.map Prod.fst).eraseDups := by
  simpa [firstOfEach] using keys_foldl_alter Prod.fst (fun e old => old.getD e.2) entries ∅

theorem get?_firstOfEach (entries : List (String × β)) (k : String) :
    (firstOfEach entries).get? k = (entries.find? fun e => e.1 == k).map Prod.snd := by
  have hkept : ∀ (l : List (String × β)) (v : β),
      l.foldl (fun old e => some (Option.getD old e.2)) (some v) = some v := by
    intro l v
    induction l with
    | nil => rfl
    | cons e rest ih => simpa using ih
  rw [firstOfEach, get?_foldl_alter Prod.fst (fun e old => old.getD e.2), ← List.head?_filter,
    get?_empty]
  cases entries.filter fun e => e.1 == k with
  | nil => rfl
  | cons e rest => simpa using hkept rest e.2

/-! ### Maps from lists -/

theorem alterEntries_of_notMem {key : String} (f : Option β → β) {entries : List (String × β)}
    (h : key ∉ entries.map Prod.fst) :
    alterEntries key f entries = entries ++ [(key, f none)] := by
  induction entries with
  | nil => rfl
  | cons e rest ih =>
    rw [List.map_cons, List.mem_cons, not_or] at h
    rw [alterEntries, if_neg (Ne.symm h.1), ih h.2, List.cons_append]

/-- Entries under distinct keys all stay, in order. -/
theorem entries_ofList {entries : List (String × β)} (h : (entries.map Prod.fst).Nodup) :
    (ofList entries).entries = entries := by
  have hadded : ∀ (l : List (String × β)) (m : OrderedMap β),
      ((m.entries ++ l).map Prod.fst).Nodup →
        (l.foldl (fun m e => m.insert e.1 e.2) m).entries = m.entries ++ l := by
    intro l
    induction l with
    | nil => simp
    | cons e rest ih =>
      intro m hm
      have hnew : e.1 ∉ m.entries.map Prod.fst := by
        rw [List.map_append, List.map_cons, List.nodup_append] at hm
        exact fun he => hm.2.2 e.1 he e.1 (List.mem_cons_self ..) rfl
      have hinsert : (m.insert e.1 e.2).entries = m.entries ++ [e] :=
        alterEntries_of_notMem _ hnew
      have hrest := ih (m.insert e.1 e.2) (by simpa [hinsert] using hm)
      simpa [hinsert] using hrest
  exact hadded entries ∅ h

theorem mem_of_mem_alterEntries {key : String} {value : β} {entries : List (String × β)}
    {e : String × β} (h : e ∈ alterEntries key (fun _ => value) entries) :
    e = (key, value) ∨ e ∈ entries := by
  induction entries with
  | nil => exact .inl (List.mem_singleton.mp h)
  | cons x rest ih =>
    obtain ⟨k, v⟩ := x
    by_cases hk : k = key
    · subst hk
      simp only [alterEntries, if_true, List.mem_cons] at h ⊢
      exact h.imp_right .inr
    · simp only [alterEntries, hk, if_false, List.mem_cons] at h ⊢
      rcases h with h | h
      · exact .inr (.inl h)
      · exact (ih h).imp_right .inr

/-- Nothing stands in a map but what was written. -/
theorem mem_of_mem_ofList {entries : List (String × β)} {e : String × β}
    (h : e ∈ (ofList entries).entries) : e ∈ entries := by
  have hwritten : ∀ (l : List (String × β)) (m : OrderedMap β),
      e ∈ (l.foldl (fun m e => m.insert e.1 e.2) m).entries → e ∈ m.entries ∨ e ∈ l := by
    intro l
    induction l with
    | nil => exact fun m h => .inl h
    | cons x rest ih =>
      intro m h
      rcases ih _ h with h | h
      · exact (mem_of_mem_alterEntries h).elim (fun heq => .inr (heq ▸ List.mem_cons_self ..)) .inl
      · exact .inr (List.mem_cons_of_mem x h)
  exact (hwritten entries ∅ h).resolve_left List.not_mem_nil

end OrderedMap
end BuilderLint
