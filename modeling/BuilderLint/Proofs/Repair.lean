import BuilderLint.Proofs.Reporting

/-! What a fix does to the report.

The stub of a requirement can be read as one statement only, and that statement uses
the requirement's name (`writtenAs_stub_iff`). A statement that is added to a body,
wherever it stands, takes the group it resolves to out of the report and leaves all
other groups as they were (`reported_insert`). So a fix takes back the diagnostic of
the first group with a member of that name, which is the diagnostic it comes with
unless an earlier group has such a member, and it adds none (`check_insert_stub`). -/
namespace BuilderLint

/-! ### The statement that a stub stands for -/

/-- The text is the beginning of the statement: an assignment that lacks its value, or a call with an
empty block. -/
inductive Statement.WrittenAs : Statement → String → Prop where
  | assignment (name : String) : WrittenAs (.assign name) (name ++ " = ")
  | call (name : String) : WrittenAs (.call name) (name ++ "\x7b\n\x7d")

namespace Requirement

/-- The statement that sets or calls what is required. -/
def use (r : Requirement) : Statement :=
  match r.kind with
  | .property => .assign r.name
  | .function => .call r.name

theorem uses_use (r : Requirement) : r.use.Uses r.name := by
  unfold use
  cases r.kind with
  | property => exact .assignment r.name
  | function => exact .call r.name

theorem assignment_ne_call (a b : String) : a ++ " = " ≠ b ++ "\x7b\n\x7d" := by
  intro h
  -- the texts differ in their last character, whatever the names are
  have hlast := congrArg (fun t => t.toList.getLast?) h
  simp at hlast

/-- A stub can be read as one statement only. -/
theorem writtenAs_stub_iff (r : Requirement) (s : Statement) : s.WrittenAs r.stub ↔ s = r.use := by
  unfold stub use
  constructor
  · intro h
    cases hkind : r.kind with
    | property =>
      simp only [hkind] at h
      generalize htext : r.name ++ " = " = text at h
      cases h with
      | assignment name => rw [(String.append_left_inj _).mp htext]
      | call name => exact absurd htext (assignment_ne_call _ _)
    | function =>
      simp only [hkind] at h
      generalize htext : r.name ++ "\x7b\n\x7d" = text at h
      cases h with
      | assignment name => exact absurd htext.symm (assignment_ne_call _ _)
      | call name => rw [(String.append_left_inj _).mp htext]
  · intro h
    subst h
    cases r.kind with
    | property => exact .assignment r.name
    | function => exact .call r.name

end Requirement

/-! ### One more statement -/

namespace Groups
variable {groups : Groups} {name : String} {g e : String × List Requirement}

theorem FirstWith.eq (hg : groups.FirstWith name g) (he : groups.FirstWith name e) : g = e := by
  rw [firstWith_iff] at hg he
  rw [hg, Option.some.injEq] at he
  exact he

/-- A name that a group has a member of has a first group. -/
theorem exists_firstWith (hg : g ∈ groups.entries) {r : Requirement} (hr : r ∈ g.2) :
    ∃ first, groups.FirstWith r.name first := by
  simp only [firstWith_iff, ← Option.isSome_iff_exists]
  rw [List.find?_isSome]
  exact ⟨g, hg, List.any_eq_true.mpr ⟨r, hr, beq_self_eq_true r.name⟩⟩

/-- A statement uses one name, so it resolves to the first group of that name. -/
theorem resolves_iff_firstWith {s : Statement} (huse : s.Uses name) :
    groups.Resolves s g ↔ groups.FirstWith name g := by
  constructor
  · intro h
    obtain ⟨n, hn, hfirst⟩ := h
    rwa [huse.eq hn]
  · exact fun h => ⟨name, huse, h⟩

end Groups

namespace Detector
variable (d : Detector) (methods : List MethodDecl)

/-- A statement more takes the groups it resolves to out of the report, wherever it stands. -/
theorem reported_insert (front back : List Statement) (s : Statement) :
    d.reported (front ++ s :: back) methods =
      (d.reported (front ++ back) methods).filter fun g => ¬(d.discover methods).Resolves s g := by
  rw [reported_eq_filter, reported_eq_filter, List.filter_filter]
  refine List.filter_congr fun g _ => ?_
  rw [← Bool.decide_and, decide_eq_decide]
  simp only [List.forall_mem_append, List.forall_mem_cons]
  exact and_left_comm

/-- A statement that uses a name takes the first group of that name out of the report. -/
theorem reported_insert_of_uses (front back : List Statement) {s : Statement} {name : String}
    (huse : s.Uses name) {first : String × List Requirement}
    (hfirst : (d.discover methods).FirstWith name first) :
    d.reported (front ++ s :: back) methods =
      (d.reported (front ++ back) methods).erase first := by
  rw [reported_insert, (d.nodup_reported _ methods).erase_eq_filter]
  refine List.filter_congr fun g _ => ?_
  rw [Bool.eq_iff_iff, decide_eq_true_iff, bne_iff_ne, Groups.resolves_iff_firstWith huse]
  constructor
  · rintro h rfl
    exact h hfirst
  · exact fun h hg => h (hg.eq hfirst)

section
variable {methods} {before after : List (String × List Requirement)}
  {g : String × List Requirement} {front back : List Statement}

/-- When the name of a member is used, its group leaves the report exactly if no earlier group has
that name. -/
theorem not_mem_reported_insert_iff
    (hsplit : (d.discover methods).entries = before ++ g :: after)
    (hreported : g ∈ d.reported (front ++ back) methods) {r : Requirement} (hr : r ∈ g.2)
    {s : Statement} (huse : s.Uses r.name) :
    g ∉ d.reported (front ++ s :: back) methods ↔ ∀ e ∈ before, ∀ x ∈ e.2, x.name ≠ r.name := by
  rw [d.mem_reported_iff _ methods hsplit] at hreported ⊢
  constructor
  · intro hgone e he x hx heq
    refine hgone fun y hy hused => ?_
    -- what the old body uses falls to an earlier group already, which leaves the new statement
    obtain ⟨t, ht, htuse⟩ := hused
    rw [List.mem_append, List.mem_cons] at ht
    rcases ht with ht | rfl | ht
    · exact hreported y hy ⟨t, List.mem_append_left _ ht, htuse⟩
    · exact ⟨e, he, x, hx, heq.trans (huse.eq htuse)⟩
    · exact hreported y hy ⟨t, List.mem_append_right _ ht, htuse⟩
  · intro hnone hstays
    obtain ⟨e, he, x, hx, heq⟩ := hstays r hr ⟨s, by simp, huse⟩
    exact hnone e he x hx heq

/-- **What a fix does.** Take any alternative of a diagnostic's fix, and add the statement that its
text begins to the body, wherever that is. The alternative is that of a member of the group, and the
diagnostics are those of before, in the same order, but for that of the first group with a member of
the name. The group itself is not reported any more exactly when no earlier one has such a member,
and nothing is reported that was not before. -/
theorem check_insert_stub {lambda : LambdaBody} (hbody : lambda.statements = front ++ back)
    (hsplit : (d.discover methods).entries = before ++ g :: after)
    (hreported : g ∈ d.reported lambda.statements methods)
    {a : Replacement} (ha : a ∈ (d.diagnostic lambda g.1 g.2).replacements)
    {text : String} (htext : a.newText = a.oldText ++ "\n" ++ text)
    {s : Statement} (hs : s.WrittenAs text) :
    ∃ r ∈ g.2, a = r.replacement lambda.span ∧ s = r.use ∧
      ∃ first, (d.discover methods).FirstWith r.name first ∧
        d.check { lambda with statements := front ++ s :: back } methods =
          ((d.reported lambda.statements methods).erase first).map (fun e =>
            d.diagnostic lambda e.1 e.2) ∧
        (d.check { lambda with statements := front ++ s :: back } methods).Sublist
          (d.check lambda methods) ∧
        (g ∉ d.reported (front ++ s :: back) methods ↔
          ∀ e ∈ before, ∀ x ∈ e.2, x.name ≠ r.name) := by
  have hg : g ∈ (d.discover methods).entries := by simp [hsplit]
  obtain ⟨r, hr, rfl⟩ := List.mem_map.mp ha
  obtain rfl : text = r.stub := ((String.append_right_inj ("\x7b" ++ "\n")).mp htext).symm
  obtain rfl := (r.writtenAs_stub_iff s).mp hs
  obtain ⟨first, hfirst⟩ := Groups.exists_firstWith hg hr
  have herase := d.reported_insert_of_uses methods front back r.uses_use hfirst
  rw [← hbody] at herase
  have hcheck : d.check { lambda with statements := front ++ r.use :: back } methods =
      ((d.reported lambda.statements methods).erase first).map fun e =>
        d.diagnostic lambda e.1 e.2 := by
    rw [check, herase]
    rfl
  refine ⟨r, hr, rfl, rfl, first, hfirst, hcheck, ?_, ?_⟩
  · rw [hcheck, check]
    exact List.erase_sublist.map _
  · exact d.not_mem_reported_insert_iff hsplit (hbody ▸ hreported) hr r.uses_use

/-- The second group of `sameName`: what it requires is named as in the first. -/
def laterGroup : String × List Requirement :=
  ("retries", [⟨"timeout", .function, some "retries", none⟩])

/-- The fix of the later group meets the earlier one, and its own diagnostic stays. -/
theorem check_insert_stub_laterGroup :
    let d : Detector := ⟨.ofPackage defaultPackage, .bean, .error⟩
    let lambda : LambdaBody := ⟨"Limits.kt", {}, [.other none]⟩
    laterGroup ∈ d.reported [.other none] sameName ∧
      (∃ a ∈ (d.diagnostic lambda laterGroup.1 laterGroup.2).replacements,
        a.newText = a.oldText ++ "\n" ++ "timeout\x7b\n\x7d") ∧
      Statement.WrittenAs (.call "timeout") "timeout\x7b\n\x7d" ∧
      ∃ first, (d.discover sameName).FirstWith "timeout" first ∧
        d.check ⟨"Limits.kt", {}, [.other none, .call "timeout"]⟩ sameName =
          ((d.reported [.other none] sameName).erase first).map (fun e =>
            d.diagnostic lambda e.1 e.2) ∧
        laterGroup ∈ d.reported [.other none, .call "timeout"] sameName := by
  intro d lambda
  let member : Requirement := ⟨"timeout", .function, some "retries", none⟩
  let earlier : String × List Requirement :=
    ("limits", [⟨"timeout", .property, some "limits", none⟩])
  have hsplit : (d.discover sameName).entries = [earlier] ++ laterGroup :: [] := by decide
  have hbody : lambda.statements = [.other none] ++ [] := rfl
  have hreported : laterGroup ∈ d.reported lambda.statements sameName := by decide
  have halternative : member.replacement lambda.span ∈
      (d.diagnostic lambda laterGroup.1 laterGroup.2).replacements := List.mem_singleton.mpr rfl
  have htext : (member.replacement lambda.span).newText =
      (member.replacement lambda.span).oldText ++ "\n" ++ "timeout\x7b\n\x7d" := by decide
  have hstub : Statement.WrittenAs (.call "timeout") "timeout\x7b\n\x7d" := .call "timeout"
  obtain ⟨r, hr, -, -, first, hfirst, hcheck, -, hgone⟩ :=
    check_insert_stub d hbody hsplit hreported halternative htext hstub
  obtain rfl := List.mem_singleton.mp hr
  refine ⟨hreported, ⟨_, halternative, htext⟩, hstub, first, hfirst, hcheck, ?_⟩
  by_contra hnot
  exact hgone.mp hnot earlier (List.mem_singleton.mpr rfl) _ (List.mem_singleton.mpr rfl) rfl

end

end Detector
end BuilderLint
