import BuilderLint.Proofs.Discovery
import BuilderLint.Report.Sarif

/-! What the fixes do to a text.

A replacement searches for its old text from the start of its range on. In the SARIF
report it is a region to delete and a text to insert. Where the old text stands right at
the start of the range, both are the same edit (`Replacement.applyTo?_ofReplaced`). The
fixes that are offered search for the opening brace of a lambda, so they insert a stub
behind it and change nothing else (`check_fixes_insert_stub`). -/
namespace BuilderLint

/-! ### Lines and columns -/

/-- A line of a text, and what ends it. -/
structure Line where
  text : List Char
  ending : List Char := []

namespace Line

def chars (l : Line) : List Char := l.text ++ l.ending

end Line

/-- How texts are divided into lines. -/
structure Layout where
  lines : List Char → List Line
  /-- Nothing is left out between the lines. -/
  whole : ∀ text, (lines text).flatMap Line.chars = text

namespace Layout
variable (layout : Layout) (text : List Char)

/-- A line by its number; lines count from one. -/
def line? (n : Nat) : Option Line := if n = 0 then none else (layout.lines text)[n - 1]?

/-- How many characters of the text stand before a column of a line. Columns count from one, and
the last one is behind the line. -/
def offset? (line col : Nat) : Option Nat := do
  let l ← layout.line? text line
  if col = 0 ∨ l.chars.length + 1 < col then none
  else some ((((layout.lines text).take (line - 1)).flatMap Line.chars).length + (col - 1))

/-- The characters stand in a line, from a column on. -/
def StandsAt (line col : Nat) (s : List Char) : Prop :=
  ∃ l front back, layout.line? text line = some l ∧ l.chars = front ++ s ++ back ∧
    col = front.length + 1

/-- What stands around characters of the text, and the offsets of their ends. -/
structure Surrounds (line col : Nat) (before s after : List Char) : Prop where
  text_eq : text = before ++ s ++ after
  start : layout.offset? text line col = some before.length
  stop : layout.offset? text line (col + s.length) = some (before.length + s.length)

variable {layout text} {line col : Nat} {s : List Char}

theorem line?_eq_some {l : Line} (hl : layout.line? text line = some l) :
    0 < line ∧ (layout.lines text)[line - 1]? = some l := by
  unfold line? at hl
  split at hl
  · cases hl
  · exact ⟨Nat.pos_of_ne_zero ‹_›, hl⟩

theorem lines_eq_of_line {l : Line} (hl : layout.line? text line = some l) :
    layout.lines text =
      (layout.lines text).take (line - 1) ++ l :: (layout.lines text).drop line := by
  obtain ⟨hline, hl⟩ := line?_eq_some hl
  obtain ⟨hlt, hget⟩ := List.getElem?_eq_some_iff.mp hl
  have hdrop := List.drop_eq_getElem_cons hlt
  rw [hget, Nat.sub_add_cancel hline] at hdrop
  rw [← hdrop, List.take_append_drop]

theorem offset?_of_line {l : Line} (hl : layout.line? text line = some l) {n : Nat}
    (hn : n ≤ l.chars.length) :
    layout.offset? text line (n + 1) =
      some ((((layout.lines text).take (line - 1)).flatMap Line.chars).length + n) := by
  have hcol : ¬(n + 1 = 0 ∨ l.chars.length + 1 < n + 1) := by omega
  rw [offset?, hl]
  exact if_neg hcol

theorem exists_line_of_offset? {n : Nat} (h : layout.offset? text line col = some n) :
    (∃ l, layout.line? text line = some l) ∧ 0 < line ∧ 0 < col := by
  obtain ⟨l, hl, hn⟩ := Option.bind_eq_some_iff.mp h
  refine ⟨⟨l, hl⟩, (line?_eq_some hl).1, Nat.pos_of_ne_zero ?_⟩
  rintro rfl
  cases hn

theorem StandsAt.surrounds (h : layout.StandsAt text line col s) :
    ∃ before after, layout.Surrounds text line col before s after := by
  obtain ⟨l, front, back, hl, hchars, rfl⟩ := h
  have hlength : l.chars.length = front.length + s.length + back.length := by
    rw [hchars, List.length_append, List.length_append]
  refine ⟨((layout.lines text).take (line - 1)).flatMap Line.chars ++ front,
    back ++ ((layout.lines text).drop line).flatMap Line.chars, ?_, ?_, ?_⟩
  · calc text = (layout.lines text).flatMap Line.chars := (layout.whole text).symm
      _ = ((layout.lines text).take (line - 1)).flatMap Line.chars ++
            (l.chars ++ ((layout.lines text).drop line).flatMap Line.chars) := by
          rw [← List.flatMap_cons, ← List.flatMap_append, ← lines_eq_of_line hl]
      _ = _ := by simp only [hchars, List.append_assoc]
  · rw [offset?_of_line hl (by omega), List.length_append]
  · rw [Nat.add_right_comm, offset?_of_line hl (by omega), List.length_append, Nat.add_assoc]

/-- The lines of a text that end with a line feed, and what is left behind the last one. -/
def splitLines : List Char → List Line
  | [] => [⟨[], []⟩]
  | c :: rest =>
    if c = '\n' then ⟨[], ['\n']⟩ :: splitLines rest
    else
      match splitLines rest with
      | l :: ls => { l with text := c :: l.text } :: ls
      | [] => [⟨[c], []⟩]

theorem flatMap_splitLines (text : List Char) : (splitLines text).flatMap Line.chars = text := by
  fun_induction splitLines text with
  | case1 => rfl
  | case2 rest ih =>
    rw [List.flatMap_cons, ih]
    rfl
  | case3 c rest hc l ls hlines ih =>
    rw [hlines] at ih
    exact congrArg (c :: ·) ih
  | case4 c rest hc hlines ih =>
    rw [hlines] at ih
    rw [← ih]
    rfl

/-- Lines end with a line feed. -/
def lineFeeds : Layout := ⟨splitLines, flatMap_splitLines⟩

end Layout

/-! ### Edits -/

/-- The text with the first occurrence of `old` replaced. -/
def replaceFirst? (old new : List Char) : List Char → Option (List Char)
  | [] => if old.isEmpty then some new else none
  | c :: rest =>
    if old.isPrefixOf (c :: rest) then some (new ++ (c :: rest).drop old.length)
    else (replaceFirst? old new rest).map (c :: ·)

theorem replaceFirst?_of_prefix (old new after : List Char) :
    replaceFirst? old new (old ++ after) = some (new ++ after) := by
  cases old with
  | nil =>
    cases after with
    | nil => simp [replaceFirst?]
    | cons c rest => simp [replaceFirst?]
  | cons c rest =>
    have hprefix : (c :: rest).isPrefixOf (c :: (rest ++ after)) = true := by
      rw [List.isPrefixOf_iff_prefix]
      exact List.prefix_append (c :: rest) after
    rw [List.cons_append, replaceFirst?, if_pos hprefix, ← List.cons_append, List.drop_left]

/-- The text after a replacement: the old text is searched for from the start of the range on. -/
def Replacement.applyTo? (layout : Layout) (text : List Char) (r : Replacement) :
    Option (List Char) := do
  let start ← layout.offset? text r.range.startLine.toNat r.range.startCol.toNat
  let changed ← replaceFirst? r.oldText.toList r.newText.toList (text.drop start)
  return text.take start ++ changed

namespace Sarif

/-- The offsets of a region's ends. It ends in the line in which it starts, and where the text of
the line ends, unless it says otherwise. -/
def Region.offsets? (layout : Layout) (text : List Char) (r : Region) : Option (Nat × Nat) := do
  let start ← layout.offset? text r.startLine.toNat r.startColumn.toNat
  let endLine := (r.endLine.getD r.startLine).toNat
  let l ← layout.line? text endLine
  let stop ← layout.offset? text endLine
    ((r.endColumn.map UInt64.toNat).getD (l.text.length + 1))
  if start ≤ stop then some (start, stop) else none

/-- The text after a replacement: the region is deleted, and the content inserted in its place. -/
def Replacement.applyTo? (layout : Layout) (text : List Char) (r : Replacement) :
    Option (List Char) := do
  let (start, stop) ← r.deleted.offsets? layout text
  return text.take start ++ r.inserted.text.toList ++ text.drop stop

theorem atLeastOne_of_pos {n : UInt64} (h : 0 < n.toNat) : atLeastOne n = n := by
  refine if_neg fun hzero => ?_
  rw [hzero] at h
  cases h

end Sarif

/-- Where the old text stands at the start of the range, a replacement and its region in the SARIF
report are the same edit. -/
theorem Replacement.applyTo?_ofReplaced {layout : Layout} {text before after : List Char}
    {r : Replacement}
    (h : layout.Surrounds text r.range.startLine.toNat r.range.startCol.toNat before
      r.oldText.toList after) :
    r.applyTo? layout text = some (before ++ r.newText.toList ++ after) ∧
      (r.range.startCol.toNat + r.oldText.length < UInt64.size →
        Sarif.Replacement.applyTo? layout text ⟨.ofReplaced r, ⟨r.newText⟩⟩ =
          some (before ++ r.newText.toList ++ after)) := by
  obtain ⟨htext, hstart, hstop⟩ := h
  obtain ⟨⟨l, hl⟩, hline, hcol⟩ := Layout.exists_line_of_offset? hstart
  have htake : text.take before.length = before := by
    rw [htext, List.append_assoc, List.take_left]
  have hdrop : text.drop before.length = r.oldText.toList ++ after := by
    rw [htext, List.append_assoc, List.drop_left]
  have hbehind : text.drop (before.length + r.oldText.toList.length) = after := by
    rw [← List.drop_drop, hdrop, List.drop_left]
  constructor
  · simp [applyTo?, hstart, htake, hdrop, replaceFirst?_of_prefix]
  · intro hword
    have hend : (r.range.startCol + UInt64.ofNat r.oldText.length).toNat =
        r.range.startCol.toNat + r.oldText.toList.length := by
      rw [UInt64.size] at hword
      rw [UInt64.toNat_add, UInt64.toNat_ofNat', String.length_toList]
      omega
    have hoffsets : (Sarif.Region.ofReplaced r).offsets? layout text =
        some (before.length, before.length + r.oldText.toList.length) := by
      simp [Sarif.Region.offsets?, Sarif.Region.ofReplaced, Sarif.atLeastOne_of_pos hline,
        Sarif.atLeastOne_of_pos hcol, hl, hstart, hend, hstop]
    simp [Sarif.Replacement.applyTo?, hoffsets, htake, hbehind]

/-! ### The fixes that are offered -/

namespace Requirement

/-- The text around an opening brace, with the requirement's stub in a new line behind the brace. -/
def inserted (r : Requirement) (before after : List Char) : List Char :=
  before ++ ('\x7b' :: '\n' :: r.stub.toList) ++ after

theorem toList_oldText (span : Span) (r : Requirement) :
    (r.replacement span).oldText.toList = ['\x7b'] := by
  simp [replacement]

theorem toList_newText (span : Span) (r : Requirement) :
    (r.replacement span).newText.toList = '\x7b' :: '\n' :: r.stub.toList := by
  simp [replacement]

end Requirement

namespace Detector

/-- **What the fixes do to a text.** In a text where the opening brace of a lambda stands at the start
of its span, every alternative that is offered for a group is that of one of its members: it writes
a new line and the member's stub right behind the brace and leaves all else as it is. In the SARIF
report it is one change with one replacement, which does the same. -/
theorem check_fixes_insert_stub (layout : Layout) (text : List Char) (d : Detector)
    (lambda : LambdaBody) (methods : List MethodDecl)
    (hbrace : layout.StandsAt text lambda.span.startLine.toNat lambda.span.startCol.toNat ['\x7b'])
    (hcol : lambda.span.startCol.toNat < UInt64.size - 1) :
    ∃ before after, text = before ++ '\x7b' :: after ∧
      layout.offset? text lambda.span.startLine.toNat lambda.span.startCol.toNat =
        some before.length ∧
      ∀ x ∈ d.check lambda methods, ∃ g ∈ d.reported lambda.statements methods,
        x.replacements = g.2.map (Requirement.replacement lambda.span) ∧
        (Sarif.Result.ofDiagnostic x).fixes =
          x.replacements.map (Sarif.Fix.ofReplacement x.file) ∧
        ∀ q ∈ g.2,
          (q.replacement lambda.span).applyTo? layout text = some (q.inserted before after) ∧
          ∃ r, (Sarif.Fix.ofReplacement x.file (q.replacement lambda.span)).changes =
              [⟨⟨Sarif.uriOf x.file⟩, [r]⟩] ∧
            r.applyTo? layout text = some (q.inserted before after) := by
  obtain ⟨before, after, hplace⟩ := hbrace.surrounds
  refine ⟨before, after, by simpa using hplace.text_eq, hplace.start, fun x hx => ?_⟩
  obtain ⟨g, hg, rfl⟩ := List.mem_map.mp hx
  refine ⟨g, hg, rfl, rfl, fun q _ => ?_⟩
  rw [← q.toList_oldText lambda.span] at hplace
  obtain ⟨happly, hsarif⟩ := Replacement.applyTo?_ofReplaced (r := q.replacement lambda.span) hplace
  rw [q.toList_newText] at happly hsarif
  refine ⟨happly, _, rfl, hsarif ?_⟩
  rw [← String.length_toList, q.toList_oldText]
  show lambda.span.startCol.toNat + 1 < UInt64.size
  omega

/-- A lambda in the second line of a text that does not set the port of its receiver. -/
theorem check_fixes_insert_stub_secondLine :
    let text := "val s =\n  server \x7b\n  \x7d".toList
    let d : Detector := { names := .ofPackage defaultPackage }
    let lambda : LambdaBody := ⟨"app.kt", { startLine := 2, startCol := 10 }, []⟩
    let methods : List MethodDecl := [.grouped (.ofPackage defaultPackage) "setPort" "address"]
    Layout.lineFeeds.StandsAt text lambda.span.startLine.toNat lambda.span.startCol.toNat
        ['\x7b'] ∧
      lambda.span.startCol.toNat < UInt64.size - 1 ∧
      ∃ x ∈ d.check lambda methods, ∃ r ∈ x.replacements,
        r.applyTo? .lineFeeds text = some "val s =\n  server \x7b\nport = \n  \x7d".toList := by
  intro text d lambda methods
  have hbrace : Layout.lineFeeds.StandsAt text lambda.span.startLine.toNat
      lambda.span.startCol.toNat ['\x7b'] :=
    ⟨⟨"  server \x7b".toList, ['\n']⟩, "  server ".toList, ['\n'], rfl, rfl, rfl⟩
  have hcol : lambda.span.startCol.toNat < UInt64.size - 1 := by decide
  obtain ⟨before, after, htext, hoffset, hfixes⟩ :=
    check_fixes_insert_stub .lineFeeds text d lambda methods hbrace hcol
  have hlength : before.length = 17 := by
    rw [← Option.some.injEq, ← hoffset]
    rfl
  have hbefore : before = "val s =\n  server ".toList := by
    have htake := congrArg (List.take 17) htext
    rw [List.take_left' hlength] at htake
    exact htake.symm
  have hafter : after = "\n  \x7d".toList := by
    have hdrop := congrArg (List.drop 17) htext
    rw [List.drop_left' hlength] at hdrop
    exact (List.cons.inj hdrop).2.symm
  have hreported : d.check lambda methods ≠ [] := by decide
  have hstub : ∀ g ∈ d.reported lambda.statements methods,
      ∃ q ∈ g.2, q.stub.toList = "port = ".toList := by decide
  obtain ⟨x, hx⟩ := List.exists_mem_of_ne_nil _ hreported
  obtain ⟨g, hg, hreplacements, -, hedits⟩ := hfixes x hx
  obtain ⟨q, hq, hstub⟩ := hstub g hg
  refine ⟨hbrace, hcol, x, hx, q.replacement lambda.span, ?_, ?_⟩
  · rw [hreplacements]
    exact List.mem_map_of_mem hq
  · rw [(hedits q hq).1, Requirement.inserted, hstub, hbefore, hafter]
    rfl

end Detector
end BuilderLint
