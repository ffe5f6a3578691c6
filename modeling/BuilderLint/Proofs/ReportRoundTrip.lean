import BuilderLint.Proofs.FactsRoundTrip
import BuilderLint.Report.Sarif

/-! Outcomes and reports that are written and read again.

What is written and what is asked for when it is read are laid down apart: a member may be
left out by the one and has a default in the other. The two agree when what is left out is
the default (`readField?_list_of_memberIf`, `readField?_optional_of_memberIf`), and then
each record is read back field by field. -/
namespace BuilderLint
open Json (Value Decoder Tagged.read?_decoder_of_first)

/-! ### Members that are left out -/

section Omitted
variable {α : Type} {decode : Decoder α} {encode : α → Value}

@[simp] theorem field?_memberIf (present : Bool) (key : String) (v : Value) (name : String) :
    (Value.object (memberIf present key v)).field? name =
      if present ∧ key = name then some v else none := by
  cases present <;> simp [memberIf]

/-- A list is read as empty when it was left out, and it is left out when it is empty. -/
@[simp] theorem readField?_list_of_memberIf {as : List α}
    (h : ∀ a ∈ as, decode.read? (encode a) = some a) :
    decode.list.readField? (some []) (if as = [] then none else some (.ofList encode as)) =
      some as := by
  cases as with
  | nil => rfl
  | cons a rest => simpa using Decoder.read?_ofList h

/-- Nothing is read when it was left out, and it is left out when there is nothing. -/
@[simp] theorem readField?_optional_of_memberIf {o : Option α}
    (h : ∀ a ∈ o, decode.read? (encode a) = some a) (hnull : ∀ a ∈ o, (encode a).isNull = false) :
    decode.optional.readField? (some none)
      (if o.isSome = true then some (.ofOption encode o) else none) = some o := by
  cases o with
  | none => rfl
  | some a => simpa using Decoder.read?_ofOption h hnull

@[simp] theorem isNull_ofWord (n : UInt64) : (Value.ofWord n).isNull = false := by
  simp only [Value.ofWord, Value.ofNat, Value.isNull]

end Omitted

/-! ### Outcomes -/

@[simp] theorem Severity.read?_encode (s : Severity) : decode.read? s.encode = some s := by
  cases s <;> rfl

@[simp] theorem Replacement.read?_members (r : Replacement) :
    decode.read? (.object r.members) = some r := by
  rw [decode, members]
  simp [shape]

@[simp] theorem Replacement.read?_encode (r : Replacement) : decode.read? r.encode = some r :=
  r.read?_members

@[simp] theorem Fix.read?_encode (f : Fix) : decode.read? f.encode = some f := by
  cases f with
  | replace r =>
    have htag : "type" ∉ r.members.map Prod.fst := by simp [Replacement.members]
    have hnames : (r.members.map Prod.fst).Nodup := by simp [Replacement.members]
    rw [decode, encode, Tagged.read?_decoder_of_first rfl htag hnames]
    simp
  | alternatives rs =>
    rw [decode, encode, Tagged.read?_decoder_of_first rfl (by simp) (by simp)]
    simp [alternativesShape]

@[simp] theorem Fix.isNull_encode (f : Fix) : f.encode.isNull = false := by
  cases f <;> rfl

@[simp] theorem Diagnostic.read?_encode (d : Diagnostic) : decode.read? d.encode = some d := by
  rw [decode, encode, Decoder.read?_record (by unfold memberIf; split <;> simp)]
  simp [shape]

@[simp] theorem Outcome.read?_encode (o : Outcome) : decode.read? o.encode = some o := by
  rw [decode, encode]
  simp [shape]

/-! ### The JSON report -/

namespace Report

@[simp] theorem FixItem.read?_encode (f : FixItem) : decode.read? f.encode = some f := by
  rw [decode, encode]
  simp [shape]

@[simp] theorem Item.read?_encode (i : Item) : decode.read? i.encode = some i := by
  rw [decode, encode, Decoder.read?_record (by unfold memberIf; split <;> simp)]
  simp [shape]

@[simp] theorem read?_encode (r : Report) : decode.read? r.encode = some r := by
  rw [decode, encode, Decoder.read?_record (by unfold memberIf; split <;> simp)]
  simp [shape]

end Report

/-! ### The SARIF report -/

namespace Sarif

@[simp] theorem Message.read?_encode (m : Message) : decode.read? m.encode = some m := by
  rw [decode, encode]
  simp

@[simp] theorem Artifact.read?_encode (a : Artifact) : decode.read? a.encode = some a := by
  rw [decode, encode]
  simp

@[simp] theorem Region.read?_encode (r : Region) : decode.read? r.encode = some r := by
  rw [decode, encode, Decoder.read?_record (by unfold memberIf; split <;> split <;> simp)]
  simp

@[simp] theorem PhysicalLocation.read?_encode (l : PhysicalLocation) :
    decode.read? l.encode = some l := by
  rw [decode, encode]
  simp

@[simp] theorem Location.read?_encode (l : Location) : decode.read? l.encode = some l := by
  rw [decode, encode]
  simp

@[simp] theorem Replacement.read?_encode (r : Replacement) : decode.read? r.encode = some r := by
  rw [decode, encode]
  simp

@[simp] theorem ArtifactChange.read?_encode (c : ArtifactChange) :
    decode.read? c.encode = some c := by
  rw [decode, encode]
  simp

@[simp] theorem Fix.read?_encode (f : Fix) : decode.read? f.encode = some f := by
  rw [decode, encode]
  simp

@[simp] theorem Result.read?_encode (r : Result) : decode.read? r.encode = some r := by
  rw [decode, encode, Decoder.read?_record (by unfold memberIf; split <;> simp)]
  simp

@[simp] theorem RuleConfig.read?_encode (c : RuleConfig) : decode.read? c.encode = some c := by
  rw [decode, encode]
  simp

@[simp] theorem RuleProperties.read?_encode (p : RuleProperties) :
    decode.read? p.encode = some p := by
  rw [decode, encode]
  simp

@[simp] theorem Rule.read?_encode (r : Rule) : decode.read? r.encode = some r := by
  rw [decode, encode]
  simp

@[simp] theorem Driver.read?_encode (d : Driver) : decode.read? d.encode = some d := by
  rw [decode, encode]
  simp

@[simp] theorem Tool.read?_encode (t : Tool) : decode.read? t.encode = some t := by
  rw [decode, encode]
  simp

@[simp] theorem Run.read?_encode (r : Run) : decode.read? r.encode = some r := by
  rw [decode, encode]
  simp

@[simp] theorem Log.read?_encode (l : Log) : decode.read? l.encode = some l := by
  rw [decode, encode]
  simp

end Sarif

/-! ### What is left out -/

theorem Diagnostic.field?_fix_eq_none (d : Diagnostic) :
    d.encode.field? "fix" = none ↔ d.fix = none := by
  rw [encode]
  simp

theorem Report.Item.field?_fixes_eq_none (d : Diagnostic) :
    (ofDiagnostic d).encode.field? "fixes" = none ↔ d.replacements = [] := by
  rw [encode, ofDiagnostic]
  simp

theorem Report.field?_suppressed_eq_none (path : String) (o : Outcome) :
    (ofOutcome path o).encode.field? "suppressed" = none ↔ o.suppressed = [] := by
  rw [encode, ofOutcome]
  simp

theorem Sarif.Result.field?_fixes_eq_none (d : Diagnostic) :
    (ofDiagnostic d).encode.field? "fixes" = none ↔ d.replacements = [] := by
  rw [encode, ofDiagnostic]
  simp

theorem Sarif.given_eq_none_iff (n : UInt64) : given n = none ↔ n = 0 := by
  simp [given]

theorem Sarif.Region.field?_end_eq_none (s : Span) :
    ((ofSpan s).encode.field? "endLine" = none ↔ s.endLine = 0) ∧
      ((ofSpan s).encode.field? "endColumn" = none ↔ s.endCol = 0) := by
  rw [encode, ofSpan]
  simp [given_eq_none_iff]

/-- **Outcomes and both reports on them are taken back as they were**, though what is empty or not
given is left out; and the suppressed diagnostics are counted whether or not they are written. -/
theorem Outcome.decode_encode_reports (path : String) (o : Outcome) :
    let report := Report.ofOutcome path o
    let log := Sarif.Log.ofOutcome o
    Decoder.ofValue decode o.encode = .ok o ∧
      (Decoder.ofValue Report.decode report.encode = .ok report ∧
        (report.encode.field? "suppressed" = none ↔ o.suppressed = []) ∧
        report.suppressed.length = o.suppressed.length ∧
        (o.suppressed.length < UInt64.size →
          report.suppressedCount.toNat = report.suppressed.length)) ∧
      Decoder.ofValue Sarif.Log.decode log.encode = .ok log ∧
      ∀ d : Diagnostic,
        (d.encode.field? "fix" = none ↔ d.fix = none) ∧
        ((Report.Item.ofDiagnostic d).encode.field? "fixes" = none ↔ d.replacements = []) ∧
        ((Sarif.Result.ofDiagnostic d).encode.field? "fixes" = none ↔ d.replacements = []) ∧
        ((Sarif.Region.ofSpan d.span).encode.field? "endLine" = none ↔ d.span.endLine = 0) ∧
        ((Sarif.Region.ofSpan d.span).encode.field? "endColumn" = none ↔ d.span.endCol = 0) := by
  intro report log
  have hcount : report.suppressed.length = o.suppressed.length := List.length_map _
  refine ⟨Decoder.read?_eq_some_iff.mp o.read?_encode,
    ⟨Decoder.read?_eq_some_iff.mp report.read?_encode, Report.field?_suppressed_eq_none path o,
      hcount, fun hsize => ?_⟩,
    Decoder.read?_eq_some_iff.mp log.read?_encode, fun d => ?_⟩
  · calc report.suppressedCount.toNat
      _ = o.suppressed.length := UInt64.toNat_ofNat_of_lt' hsize
      _ = report.suppressed.length := hcount.symm
  · exact ⟨d.field?_fix_eq_none, Report.Item.field?_fixes_eq_none d,
      Sarif.Result.field?_fixes_eq_none d, Sarif.Region.field?_end_eq_none d.span⟩

/-- A diagnostic without a fix and one with a fix that offers nothing, and one with a replacement
that is suppressed or is not there at all. -/
theorem Outcome.decode_encode_reports_mixed :
    let replaced : Diagnostic :=
      ⟨"DSLMandatory", .error, "a.kts", ⟨1, 2, 3, 4⟩, "", some (.replace { newText := "x" })⟩
    let found : List Diagnostic :=
      [⟨"DSLMandatory", .error, "a.kts", {}, "", none⟩,
        ⟨"DSLMandatory", .info, "b.kts", {}, "m", some (.alternatives [])⟩]
    let report := Report.ofOutcome "." ⟨found, [replaced], 2, 3⟩
    let short := Report.ofOutcome "." ⟨found, [], 2, 3⟩
    (Decoder.ofValue Report.decode report.encode = .ok report ∧ report.suppressedCount.toNat = 1) ∧
      Decoder.ofValue Report.decode short.encode = .ok short ∧
      short.encode.field? "suppressed" = none ∧ short.suppressedCount.toNat = 0 := by
  intro replaced found report short
  have hreport := decode_encode_reports "." ⟨found, [replaced], 2, 3⟩
  have hshort := decode_encode_reports "." ⟨found, [], 2, 3⟩
  exact ⟨⟨hreport.2.1.1, hreport.2.1.2.2.2 (by decide)⟩,
    hshort.2.1.1, hshort.2.1.2.1.mpr rfl, hshort.2.1.2.2.2 (by decide)⟩

end BuilderLint
