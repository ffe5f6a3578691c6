import BuilderLint.Config.Basic
import BuilderLint.Outcome.Json

/-! Configuration in JSON. -/
namespace BuilderLint.Config
open Json (Value Decoder Shape)

def encode (c : Config) : Value := .object [
  ("annotation_package", .ofOption .string c.package),
  ("severity", .ofOption Severity.encode c.severity),
  ("disabled", .strings c.disabled),
  ("excluded_paths", .strings c.excludedPaths),
  ("include", .strings c.includes)]

def shape : Shape :=
  ⟨"struct Config", ["annotation_package", "severity", "disabled", "excluded_paths", "include"]⟩

def decode : Decoder Config := .record shape fun row =>
  Config.mk <$> row.withDefault "annotation_package" (.optional .string) none
    <*> row.withDefault "severity" (.optional Severity.decode) none
    <*> row.withDefault "disabled" (.list .string) []
    <*> row.withDefault "excluded_paths" (.list .string) []
    <*> row.withDefault "include" (.list .string) []

end BuilderLint.Config
