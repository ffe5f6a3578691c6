import BuilderLint.Facts.Yaml
import BuilderLint.Files.Tree
import BuilderLint.Text.Blank

/-! Loading fact documents.

The format is chosen by the extension of the path, before the file is read. A
blank YAML document is empty. -/
namespace BuilderLint

inductive Format where
  | yaml
  | json
deriving DecidableEq, Repr

namespace Format

/-- The format of a path, by its extension. -/
def ofPath? (path : String) : Option Format :=
  match Path.extension? path with
  | some "yaml" => some .yaml
  | some "yml" => some .yaml
  | some "json" => some .json
  | _ => none

end Format

/-- Why a document cannot be loaded. -/
inductive LoadError where
  | unreadable (path : String) (why : FileError)
  | invalidYaml (path : String)
  | invalidJson (path : String) (fault : Json.Fault)
  | unsupported (path : String)

namespace LoadError

def message : LoadError → String
  | .unreadable path why => "failed to read " ++ path ++ ": " ++ why.text
  | .invalidYaml path => "invalid YAML in " ++ path
  | .invalidJson path _ => "invalid JSON in " ++ path
  | .unsupported path =>
    "unsupported fact document: " ++ path ++ " (expected .yaml, .yml or .json)"

/-- The message with its cause. -/
def fullMessage (e : LoadError) : String :=
  match e with
  | .unreadable _ why => e.message ++ ": " ++ why.text
  | _ => e.message

end LoadError

namespace Document

/-- The document written in a text. The path is for messages only. -/
def ofText (format : Format) (path text : String) : Except LoadError Document :=
  match format with
  | .yaml =>
    if Text.isBlank text then .ok {}
    else
      match Yaml.readText? ofYaml text with
      | some d => .ok d
      | none => .error (.invalidYaml path)
  | .json =>
    match Json.Decoder.ofText decode text with
    | .ok d => .ok d
    | .error fault => .error (.invalidJson path fault)

/-- The document in a file. -/
def load (fs : FileSystem) (path : String) : Except LoadError Document :=
  match Format.ofPath? path with
  | none => .error (.unsupported path)
  | some format =>
    match fs.readText path with
    | .error why => .error (.unreadable path why)
    | .ok text => ofText format path text

end Document
end BuilderLint
