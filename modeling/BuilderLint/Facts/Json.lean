import BuilderLint.Facts.Basic
import BuilderLint.Json.Tagged

/-! Facts in JSON.

`encode` writes every field; `decode` fills in the defaults of fields that were
left out, so decoding an encoded document gives the document back. -/
namespace BuilderLint
open Json (Value Decoder Shape Row Tagged.decoder)

/-! ### Spans -/

namespace Span

def encode (s : Span) : Value := .object [
  ("start_line", .ofWord s.startLine),
  ("start_col", .ofWord s.startCol),
  ("end_line", .ofWord s.endLine),
  ("end_col", .ofWord s.endCol)]

def shape : Shape := ⟨"struct Span", ["start_line", "start_col", "end_line", "end_col"]⟩

def decode : Decoder Span := .record shape fun row =>
  Span.mk <$> row.required "start_line" .word
    <*> row.required "start_col" .word
    <*> row.withDefault "end_line" .word 0
    <*> row.withDefault "end_col" .word 0

end Span

/-! ### Statements -/

namespace Target

def encode : Target → Value
  | .identifier name => .string name
  | .expression text => .object [("expression", .string text)]

def shape : Shape := ⟨"struct variant AssignTarget::Expression", ["expression"]⟩

/-- A text is a name; an object has to hold an expression. All else is neither, whatever its fault. -/
def decode : Decoder Target
  | source, d =>
    if !d.fits source then .error .malformed
    else
      match d with
      | .string name => .ok (.identifier name)
      | .object members _ =>
        let row := Row.ofMembers shape .memory members true
        match (row.required "expression" .string).result row.fault with
        | .ok text => .ok (.expression text)
        | .error _ => .error (.mismatch (.noVariant "AssignTarget"))
      | _ => .error (.mismatch (.noVariant "AssignTarget"))

end Target

namespace Statement

mutual

def encode : Statement → Value
  | .assignment target => .object [("kind", .string "assignment"), ("target", target.encode)]
  | .call name => .object [("kind", .string "call"), ("name", .string name)]
  | .block label statements => .object [
      ("kind", .string "block"),
      ("label", .ofOption .string label),
      ("statements", .array (encodeAll statements))]
  | .other text => .object [("kind", .string "other"), ("text", .ofOption .string text)]

def encodeAll : List Statement → List Value
  | [] => []
  | s :: rest => encode s :: encodeAll rest

end

def assignmentShape : Shape := ⟨"struct variant Statement::Assignment", ["target"]⟩
def callShape : Shape := ⟨"struct variant Statement::Call", ["name"]⟩
def blockShape : Shape := ⟨"struct variant Statement::Block", ["label", "statements"]⟩
def otherShape : Shape := ⟨"struct variant Statement::Other", ["text"]⟩

/-- The kinds of statements, those inside a block decoded by `inner`. -/
def variants (inner : Decoder Statement) : List (String × Decoder Statement) := [
  ("assignment", .record assignmentShape fun row =>
    Statement.assignment <$> row.required "target" Target.decode),
  ("call", .record callShape fun row =>
    Statement.call <$> row.required "name" .string),
  ("block", .record blockShape fun row =>
    Statement.block <$> row.withDefault "label" (.optional .string) none
      <*> row.withDefault "statements" (.list inner) []),
  ("other", .record otherShape fun row =>
    Statement.other <$> row.withDefault "text" (.optional .string) none)]

/-- Decodes a statement whose blocks are nested less than `levels` deep. -/
def decodeWithin : Nat → Decoder Statement
  | 0 => fun _ _ => .error .malformed
  | levels + 1 => Tagged.decoder "Statement" "kind" (variants (decodeWithin levels))

/-- A block takes up two levels of a draft, so the draft's depth bounds the nesting. -/
def decode : Decoder Statement
  | source, d => decodeWithin (d.depth + 1) source d

end Statement

/-! ### Classes -/

namespace Mark

def encode (m : Mark) : Value := .object [
  ("name", .string m.name),
  ("attributes", .object m.attributes.entries)]

def shape : Shape := ⟨"struct AnnotationFact", ["name", "attributes"]⟩

def decode : Decoder Mark := .record shape fun row =>
  Mark.mk <$> row.required "name" .string <*> row.withDefault "attributes" .map ∅

end Mark

namespace MethodDecl

def encode (m : MethodDecl) : Value := .object [
  ("name", .string m.name),
  ("annotations", .ofList Mark.encode m.marks)]

def shape : Shape := ⟨"struct MethodFact", ["name", "annotations"]⟩

def decode : Decoder MethodDecl := .record shape fun row =>
  MethodDecl.mk <$> row.required "name" .string
    <*> row.withDefault "annotations" (.list Mark.decode) []

end MethodDecl

namespace ClassDecl

def encode (c : ClassDecl) : Value := .object [
  ("name", .string c.name),
  ("supertypes", .strings c.supertypes),
  ("annotations", .ofList Mark.encode c.marks),
  ("methods", .ofList MethodDecl.encode c.methods)]

def shape : Shape := ⟨"struct ClassFact", ["name", "supertypes", "annotations", "methods"]⟩

def decode : Decoder ClassDecl := .record shape fun row =>
  ClassDecl.mk <$> row.required "name" .string
    <*> row.withDefault "supertypes" (.list .string) []
    <*> row.withDefault "annotations" (.list Mark.decode) []
    <*> row.withDefault "methods" (.list MethodDecl.decode) []

end ClassDecl

/-! ### Lambdas and documents -/

namespace Lambda

def encode (l : Lambda) : Value := .object [
  ("file", .string l.file),
  ("receiver", .string l.receiver),
  ("span", l.span.encode),
  ("suppress", .strings l.suppress),
  ("statements", .ofList Statement.encode l.statements)]

def shape : Shape := ⟨"struct LambdaFact", ["file", "receiver", "span", "suppress", "statements"]⟩

def decode : Decoder Lambda := .record shape fun row =>
  Lambda.mk <$> row.withDefault "file" .string ""
    <*> row.required "receiver" .string
    <*> row.withDefault "span" Span.decode {}
    <*> row.withDefault "suppress" (.list .string) []
    <*> row.withDefault "statements" (.list Statement.decode) []

end Lambda

namespace Document

def encode (d : Document) : Value := .object [
  ("classes", .ofList ClassDecl.encode d.classes),
  ("lambdas", .ofList Lambda.encode d.lambdas)]

def shape : Shape := ⟨"struct FactsDocument", ["classes", "lambdas"]⟩

def decode : Decoder Document := .record shape fun row =>
  Document.mk <$> row.withDefault "classes" (.list ClassDecl.decode) []
    <*> row.withDefault "lambdas" (.list Lambda.decode) []

end Document
end BuilderLint
