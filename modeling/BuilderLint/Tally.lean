import BuilderLint.Requirement

/-! Counting uses.

Each top-level statement that assigns to a bare name or calls a function counts
towards the first group with a member of that name. Nested blocks are not looked
into. The counts come in the order of first assignment, then of first call, and
last the groups that are not used, in the order of discovery. -/
namespace BuilderLint

/-- How many statements count towards each group. -/
abbrev Tally := OrderedMap Nat

namespace Tally

/-- Adds to the count of a group. -/
def add (tally : Tally) (key : String) (n : Nat) : Tally :=
  tally.alter key fun old => old.getD 0 + n

/-- Counts the names towards their groups. -/
def ofNames (groups : Groups) (names : List String) : Tally :=
  (names.filterMap groups.keyOf?).foldl (fun t key => t.add key 1) ∅

/-- Counts the statements of a body; every group has a count. -/
def ofStatements (groups : Groups) (body : List Statement) : Tally :=
  let assigned := ofNames groups (body.filterMap Statement.assigned?)
  let called := ofNames groups (body.filterMap Statement.called?)
  let used := called.entries.foldl (fun t e => t.add e.1 e.2) assigned
  groups.keys.foldl (fun t key => t.add key 0) used

/-- The groups that nothing counts towards. -/
def missing (tally : Tally) : List String :=
  (tally.entries.filter fun e => e.2 == 0).map Prod.fst

end Tally
end BuilderLint
