import BuilderLint.Proofs.DistinctKeys

/-! Fact documents that are written and read again.

Each part of a document is read back from what it is written as. For statements this is
an induction over the blocks they are nested in: a decoder with one level less takes what
is inside, and a block takes up more levels of what is written than one
(`Statement.depth_block`). Only attributes hold values that are not the document's own,
so a document is read back just when no object in them has two members of one name
(`Document.decode_encode`). -/
namespace BuilderLint
open Json (Value Draft Decoder Row Tagged.read?_decoder_of_first)

/-! ### Spans and statements -/

@[simp] theorem Span.read?_encode (s : Span) : decode.read? s.encode = some s := by
  rw [decode, encode]
  simp [shape]

@[simp] theorem Target.read?_encode (t : Target) : decode.read? t.encode = some t := by
  cases t <;> rfl

namespace Statement

/-- What holds of a statement when it holds of the statements inside it holds of all statements. -/
@[elab_as_elim]
theorem induction {P : Statement → Prop} (assignment : ∀ target, P (.assignment target))
    (call : ∀ name, P (.call name))
    (block : ∀ label statements, (∀ s ∈ statements, P s) → P (.block label statements))
    (other : ∀ text, P (.other text)) (s : Statement) : P s :=
  match s with
  | .assignment target => assignment target
  | .call name => call name
  | .block label statements =>
    block label statements fun s _ => induction assignment call block other s
  | .other text => other text
termination_by sizeOf s
decreasing_by
  have := List.sizeOf_lt_of_mem ‹s ∈ statements›
  simp only [Statement.block.sizeOf_spec]
  omega

theorem encodeAll_eq_map (statements : List Statement) :
    encodeAll statements = statements.map encode := by
  induction statements with
  | nil => rfl
  | cons s rest ih => rw [encodeAll, ih, List.map_cons]

/-- A block is two levels deeper than what is inside it. -/
theorem depth_block (label : Option String) {statements : List Statement} {s : Statement}
    (hs : s ∈ statements) :
    (Draft.ofValue s.encode).depth + 2 ≤
      (Draft.ofValue (encode (.block label statements))).depth := by
  have hinside : (Draft.ofValue s.encode).depth ≤
      Draft.depthItems ((statements.map encode).map Draft.ofValue) :=
    Draft.le_depthItems (List.mem_map_of_mem (List.mem_map_of_mem hs))
  simp only [encode, encodeAll_eq_map, Draft.ofValue, Draft.ofMembers,
    Draft.ofValues_eq_map, Draft.depth, Draft.depthMembers]
  omega

theorem read?_encode_within (s : Statement) :
    ∀ levels, (Draft.ofValue s.encode).depth ≤ levels →
      (decodeWithin (levels + 1)).read? s.encode = some s := by
  -- A decoder with one level less takes what is inside a block.
  induction s using induction with
  | assignment target =>
    intro levels _
    rw [decodeWithin, encode, Tagged.read?_decoder_of_first rfl (by simp) (by simp)]
    simp [assignmentShape]
  | call name =>
    intro levels _
    rw [decodeWithin, encode, Tagged.read?_decoder_of_first rfl (by simp) (by simp)]
    simp [callShape]
  | block label statements ih =>
    intro levels hlevels
    have hinside : (decodeWithin levels).list.read? (.array (statements.map encode)) =
        some statements := by
      refine Decoder.read?_ofList fun s hs => ?_
      have hdepth := Nat.le_trans (depth_block label hs) hlevels
      obtain ⟨inner, rfl⟩ := Nat.exists_eq_add_of_le' (Nat.le_of_add_left_le hdepth)
      exact ih s hs (inner + 1) (by omega)
    rw [decodeWithin, encode, encodeAll_eq_map,
      Tagged.read?_decoder_of_first rfl (by simp) (by simp)]
    simp [blockShape, hinside]
  | other text =>
    intro levels _
    rw [decodeWithin, encode, Tagged.read?_decoder_of_first rfl (by simp) (by simp)]
    simp [otherShape]

@[simp] theorem read?_encode (s : Statement) : decode.read? s.encode = some s := by
  have h := read?_encode_within s _ (Nat.le_refl _)
  rw [Decoder.read?, Decoder.ofValue] at h ⊢
  rw [decode, h]

end Statement

/-! ### Classes -/

theorem Mark.read?_encode {m : Mark} (h : m.DistinctKeys) : decode.read? m.encode = some m := by
  rw [decode, encode]
  simp [shape, Decoder.read?_map h]

theorem MethodDecl.read?_encode {m : MethodDecl} (h : m.DistinctKeys) :
    decode.read? m.encode = some m := by
  have hmarks := Decoder.read?_ofList fun mark hmark => Mark.read?_encode (h mark hmark)
  rw [decode, encode]
  simp [shape, hmarks]

theorem ClassDecl.read?_encode {c : ClassDecl} (h : c.DistinctKeys) :
    decode.read? c.encode = some c := by
  have hmarks := Decoder.read?_ofList fun mark hmark => Mark.read?_encode (h.marks mark hmark)
  have hmethods := Decoder.read?_ofList fun m hm => MethodDecl.read?_encode (h.methods m hm)
  rw [decode, encode]
  simp [shape, hmarks, hmethods]

/-! ### Lambdas and documents -/

@[simp] theorem Lambda.read?_encode (l : Lambda) : decode.read? l.encode = some l := by
  rw [decode, encode]
  simp [shape]

theorem Document.read?_encode {d : Document} (h : d.DistinctKeys) :
    decode.read? d.encode = some d := by
  have hclasses := Decoder.read?_ofList fun c hc => ClassDecl.read?_encode (h c hc)
  rw [decode, encode]
  simp [shape, hclasses]

/-- **Documents are taken back whole**: each one in whose attributes no object has two members of one
name, as no object that was read has; so decoding again what was loaded changes nothing. -/
theorem Document.decode_encode :
    (∀ d : Document, Decoder.ofValue decode d.encode = .ok d ↔ d.DistinctKeys) ∧
      (∀ source draft d, decode source draft = .ok d → Decoder.ofValue decode d.encode = .ok d) ∧
      ∀ format path text d, ofText format path text = .ok d →
        Decoder.ofValue decode d.encode = .ok d := by
  have htaken : ∀ d : Document, d.DistinctKeys → Decoder.ofValue decode d.encode = .ok d :=
    fun d h => Decoder.read?_eq_some_iff.mp (read?_encode h)
  refine ⟨fun d => ⟨yields_decode .memory _ d, htaken d⟩, ?_, ?_⟩
  · intro source draft d h
    exact htaken d (yields_decode source draft d h)
  · intro format path text d h
    exact htaken d (distinctKeys_of_ofText h)

/-- Blocks in blocks, both kinds of targets, what is left out and objects in attributes. -/
def Document.nested : Document where
  classes := [{
    name := "Builder"
    supertypes := ["Base"]
    marks := [{
      name := "DslMandatory"
      attributes := .ofList [
        ("group", .string "g"), ("at", .object [("b", .null), ("a", .array [])])] }]
    methods := [{ name := "setName" }] }]
  lambdas := [{
    receiver := "Builder"
    span := { startLine := 3, startCol := 18446744073709551615 }
    statements := [
      .block none [.block (some "if") [.assignment (.expression "it.name")], .other none],
      .assignment (.identifier "name"), .call "build", .other (some "x")] }]

theorem Document.decode_encode_nested :
    Decoder.ofValue decode nested.encode = .ok nested ∧
      Decoder.ofValue decode (encode {}) = .ok {} := by
  have hobject : (Value.object [("b", .null), ("a", .array [])]).DistinctKeys :=
    .object (by decide) (List.forall_mem_cons.mpr
      ⟨.null, List.forall_mem_singleton.mpr (.array (List.forall_mem_nil _))⟩)
  have hdistinct : nested.DistinctKeys :=
    List.forall_mem_singleton.mpr {
      marks := List.forall_mem_singleton.mpr (List.forall_mem_cons.mpr
        ⟨.string "g", List.forall_mem_singleton.mpr hobject⟩)
      methods := List.forall_mem_singleton.mpr (List.forall_mem_nil _) }
  have h := (decode_encode.1 nested).mpr hdistinct
  exact ⟨decode_encode.2.1 .memory _ nested h, decode_encode.2.2 .yaml "facts.yaml" " " {} (by rfl)⟩

end BuilderLint
