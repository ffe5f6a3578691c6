import BuilderLint.Config.Basic
import BuilderLint.Yaml.Reading

/-! Loading the configuration.

A configuration is a YAML file; a blank one is the default. A directory's own
configuration is found under one of two names. -/
namespace BuilderLint.Config
open Yaml (NodeReader)

def ofYaml : NodeReader Config
  | levels, node => do
    let ms ← NodeReader.membersOf levels node
    let severities := Severity.all.map fun s => (s.text, s)
    let package ← ms.withDefault "annotation_package" (.optional .text) none
    let severity ← ms.withDefault "severity" (.optional (.choice severities)) none
    let disabled ← ms.withDefault "disabled" (.list .text) []
    let excludedPaths ← ms.withDefault "excluded_paths" (.list .text) []
    let includes ← ms.withDefault "include" (.list .text) []
    return { package, severity, disabled, excludedPaths, includes }

/-- The configuration in a file. -/
def load (fs : FileSystem) (path : String) : Except ConfigError Config :=
  match fs.readText path with
  | .error why => .error (.unreadable path why)
  | .ok text =>
    if Text.isBlank text then .ok {}
    else
      match Yaml.readText? ofYaml text with
      | some c => .ok c
      | none => .error (.invalidYaml path)

/-- The path of a directory's own configuration. -/
def discover? (fs : FileSystem) (dir : String) : Option String :=
  (fileNames.map (Path.join dir)).find? fs.isFile

end BuilderLint.Config
