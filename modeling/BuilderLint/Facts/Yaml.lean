import BuilderLint.Facts.Json
import BuilderLint.Yaml.Reading

/-! Facts in YAML.

Records are mappings; a collection that was left out is empty. A statement is held
in memory before it is decoded, so its parts have types, while texts elsewhere are
taken as they are written. -/
namespace BuilderLint
open Yaml (NodeReader)

def Span.ofYaml : NodeReader Span
  | levels, node => do
    let ms ← NodeReader.membersOf levels node
    let startLine ← ms.required "start_line" .word
    let startCol ← ms.required "start_col" .word
    let endLine ← ms.withDefault "end_line" .word 0
    let endCol ← ms.withDefault "end_col" .word 0
    return { startLine, startCol, endLine, endCol }

def Statement.ofYaml : NodeReader Statement
  | levels, node => do
    let draft ← NodeReader.taggedDraft "kind" levels node
    match Statement.decode .memory draft with
    | .ok s => return s
    | .error _ => failure

def Mark.ofYaml : NodeReader Mark
  | levels, node => do
    let ms ← NodeReader.membersOf levels node
    let name ← ms.required "name" .text
    let attributes ← ms.withDefault "attributes" .map ∅
    return { name, attributes }

def MethodDecl.ofYaml : NodeReader MethodDecl
  | levels, node => do
    let ms ← NodeReader.membersOf levels node
    let name ← ms.required "name" .text
    let marks ← ms.withDefault "annotations" (.list Mark.ofYaml) []
    return { name, marks }

def ClassDecl.ofYaml : NodeReader ClassDecl
  | levels, node => do
    let ms ← NodeReader.membersOf levels node
    let name ← ms.required "name" .text
    let supertypes ← ms.withDefault "supertypes" (.list .text) []
    let marks ← ms.withDefault "annotations" (.list Mark.ofYaml) []
    let methods ← ms.withDefault "methods" (.list MethodDecl.ofYaml) []
    return { name, supertypes, marks, methods }

def Lambda.ofYaml : NodeReader Lambda
  | levels, node => do
    let ms ← NodeReader.membersOf levels node
    let file ← ms.withDefault "file" .text ""
    let receiver ← ms.required "receiver" .text
    let span ← ms.withDefault "span" Span.ofYaml {}
    let suppress ← ms.withDefault "suppress" (.list .text) []
    let statements ← ms.withDefault "statements" (.list Statement.ofYaml) []
    return { file, receiver, span, suppress, statements }

def Document.ofYaml : NodeReader Document
  | levels, node => do
    let ms ← NodeReader.membersOf levels node
    let classes ← ms.withDefault "classes" (.list ClassDecl.ofYaml) []
    let lambdas ← ms.withDefault "lambdas" (.list Lambda.ofYaml) []
    return { classes, lambdas }

end BuilderLint
