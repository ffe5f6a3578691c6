/-! White space.

A text is blank when every character of it has the Unicode property
White_Space. An unset group, an unset message and an empty document are all
blank texts, so one predicate serves them. -/
namespace BuilderLint.Text

/-- The characters with the Unicode property White_Space. -/
def isSpace (c : Char) : Bool :=
  let n := c.toNat
  (9 ≤ n && n ≤ 13) || n == 0x20 || n == 0x85 || n == 0xA0 || n == 0x1680 ||
    (0x2000 ≤ n && n ≤ 0x200A) || n == 0x2028 || n == 0x2029 || n == 0x202F || n == 0x205F ||
    n == 0x3000

/-- Nothing but white space. -/
def isBlank (s : String) : Bool :=
  s.toList.all isSpace

/-- The text, unless it is blank. -/
def nonBlank (s : String) : Option String :=
  if isBlank s then none else some s

@[simp] theorem nonBlank_eq_some_iff (s t : String) :
    nonBlank s = some t ↔ s = t ∧ isBlank t = false := by
  unfold nonBlank
  split <;> rename_i h
  · simp only [reduceCtorEq, false_iff, not_and, Bool.not_eq_false]
    rintro rfl
    exact h
  · simp only [Option.some.injEq]
    constructor
    · rintro rfl
      exact ⟨rfl, by simpa using h⟩
    · exact fun e => e.1

end BuilderLint.Text
