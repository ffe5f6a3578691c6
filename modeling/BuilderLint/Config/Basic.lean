import BuilderLint.Diagnostic
import BuilderLint.Files.Tree
import BuilderLint.Glob.Match
import BuilderLint.MarkNames
import BuilderLint.Text.Blank
import BuilderLint.Text.Quoted

/-! Configuration. -/
namespace BuilderLint

structure Config where
  /-- The package of the marks, unless it is the usual one. -/
  package : Option String := none
  /-- The severity to report with, unless it is the issue's own. -/
  severity : Option Severity := none
  /-- Ids of the issues that are not reported. -/
  disabled : List String := []
  /-- Patterns of source files whose lambdas are not checked. -/
  excludedPaths : List String := []
  /-- Patterns of fact documents in a directory, unless they are the usual ones. -/
  includes : List String := []

/-- Why a configuration cannot be used. -/
inductive ConfigError where
  | unreadable (path : String) (why : FileError)
  | invalidYaml (path : String)
  | invalidPattern (why : Glob.Invalid)
  | emptyPackage

namespace ConfigError

def message : ConfigError → String
  | .unreadable path why => "failed to read " ++ path ++ ": " ++ why.text
  | .invalidYaml path => "invalid configuration in " ++ path
  | .invalidPattern why =>
    "invalid glob pattern " ++ Text.quoted why.pattern ++ ": " ++ why.message
  | .emptyPackage => "annotation_package must not be empty"

end ConfigError

namespace Config

/-- The names under which a directory may hold its configuration, in the order of preference. -/
def fileNames : List String := ["dslint.yaml", ".dslint.yaml"]

/-- The usual fact documents. -/
def defaultIncludes : List String :=
  ["**/*.dslint.yaml", "**/*.dslint.yml", "**/*.dslint.json"]

def packageName (c : Config) : String := c.package.getD defaultPackage

def markNames (c : Config) : MarkNames := .ofPackage c.packageName

def isDisabled (c : Config) (issue : String) : Bool := c.disabled.contains issue

/-- A set of patterns, or the first one that cannot be read. -/
def patterns (texts : List String) : Except ConfigError Glob.PatternSet :=
  (Glob.PatternSet.ofTexts texts).mapError .invalidPattern

def excluded (c : Config) : Except ConfigError Glob.PatternSet := patterns c.excludedPaths

def included (c : Config) : Except ConfigError Glob.PatternSet :=
  patterns (if c.includes.isEmpty then defaultIncludes else c.includes)

/-- Whether the configuration can be used: a package that is given is not blank, and all patterns can
be read. -/
def validate (c : Config) : Except ConfigError Unit := do
  if c.package.any Text.isBlank then throw .emptyPackage
  let _ ← c.excluded
  let _ ← c.included
  return ()

end Config
end BuilderLint
