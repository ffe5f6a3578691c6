/-! The tokens of a YAML text. -/
namespace BuilderLint.Yaml

/-- How a scalar is written. -/
inductive Style where
  | plain
  | singleQuoted
  | doubleQuoted
  | literal
  | folded
deriving DecidableEq, Repr

/-- A token. The ends of block collections and most starts of them show in the indentation only. -/
inductive Token where
  | streamEnd
  | version (major minor : Nat)
  | tagDirective (handle uri : String)
  | documentStart
  | documentEnd
  | blockSequenceStart
  | blockMappingStart
  | blockEnd
  | flowSequenceStart
  | flowSequenceEnd
  | flowMappingStart
  | flowMappingEnd
  | blockEntry
  | flowEntry
  | key
  | value
  | alias (name : String)
  | anchor (name : String)
  | tag (handle suffix : String)
  | scalar (style : Style) (text : String)
deriving DecidableEq, Repr

end BuilderLint.Yaml
