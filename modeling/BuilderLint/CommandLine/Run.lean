import BuilderLint.Checker
import BuilderLint.CommandLine.Arguments
import BuilderLint.Config.Load
import BuilderLint.Files.Collect
import BuilderLint.Report.Pretty
import BuilderLint.Report.Sarif

/-! Running a command.

What can be wrong is looked at in a fixed order: the format, the configuration, the
path, the documents. Nothing is reported before all of it is right. -/
namespace BuilderLint.CommandLine

/-- What a command leaves behind. -/
structure Result where
  exit : Nat
  stdout : String := ""
  stderr : String := ""
deriving DecidableEq, Repr

/-- The exit codes. -/
def exitSuccess : Nat := 0
def exitFailed : Nat := 1
def exitError : Nat := 2

/-- A command that cannot be carried out. -/
def Result.error (message : String) : Result :=
  { exit := exitError, stderr := "Error: " ++ message ++ "\n" }

/-! ### Reports -/

inductive ReportFormat where
  | pretty
  | json
  | sarif
deriving DecidableEq, Repr

namespace ReportFormat

def ofText? : String → Option ReportFormat
  | "pretty" => some .pretty
  | "json" => some .json
  | "sarif" => some .sarif
  | _ => none

/-- The report on an outcome at a path. -/
def render (format : ReportFormat) (view : Report.View) (path : String) (o : Outcome) : String :=
  match format with
  | .pretty => view.render path o
  | .json => (Report.ofOutcome path o).encode.pretty ++ "\n"
  | .sarif => (Sarif.Log.ofOutcome o).encode.pretty ++ "\n"

end ReportFormat

/-! ### The check command -/

/-- The configuration asked for, else the one of the working directory, else the default. -/
def loadConfig (fs : FileSystem) (explicit : Option String) : Except ConfigError Config :=
  match explicit <|> Config.discover? fs "." with
  | some path => Config.load fs path
  | none => .ok {}

/-- Why there is no outcome to report. -/
inductive NoOutcome where
  | failure (message : String)
  /-- A directory without a fact document. -/
  | noDocuments

/-- The outcome at a path: of one document, or of all in a directory. -/
def outcomeAt (fs : FileSystem) (config : Config) (checker : Checker) (path : String) :
    Except NoOutcome Outcome := do
  let entry ← (fs.entry path).mapError fun why =>
    .failure ("cannot access path " ++ Text.quotedPath path ++ ": " ++ why.text)
  if entry.isDirectory then
    let included ← config.included.mapError fun e => .failure e.message
    let paths ← (fs.collect path included).mapError fun e => .failure e.message
    if paths.isEmpty then throw .noDocuments
    return checker.run (Document.load fs) paths
  else
    let outcome ← (checker.checkPath (Document.load fs) path).mapError fun e =>
      .failure ("loading " ++ path ++ ": " ++ e.fullMessage)
    return outcome.sort

/-- The exit code after a report. -/
def exitAfter (o : Outcome) : Nat := if o.hasErrors then exitFailed else exitSuccess

def runCheck (fs : FileSystem) (colours : Bool) (request : CheckRequest) : Result :=
  match ReportFormat.ofText? request.format with
  | none =>
    .error ("invalid format " ++ Text.quoted request.format ++
      ", must be 'pretty', 'json', or 'sarif'")
  | some format =>
    match loadConfig fs request.config with
    | .error e => .error e.message
    | .ok config =>
      match Checker.ofConfig config with
      | .error e => .error ("invalid configuration: " ++ e.message)
      | .ok checker =>
        match outcomeAt fs config checker request.path with
        | .error (.failure message) => .error message
        | .error .noDocuments =>
          { exit := exitSuccess, stderr := "Warning: no fact documents to check\n" }
        | .ok outcome =>
          let view : Report.View := { colours, showSuppressed := request.showSuppressed }
          { exit := exitAfter outcome, stdout := format.render view request.path outcome }

/-! ### The issues command -/

/-- Blanks behind a text, up to a width. -/
def padTo (width : Nat) (text : String) : String :=
  String.ofList (Style.pad width text.toList)

def describeIssue (i : Issue) : String :=
  "  " ++ padTo 16 i.id ++ " " ++ padTo 12 i.category.text ++ " priority " ++
    padTo 3 (toString i.priority.toNat) ++ " " ++ i.severity.text ++ "\n" ++
    "  " ++ padTo 16 "" ++ " " ++ i.brief ++ "\n"

def runIssues : Result :=
  { exit := exitSuccess, stdout := "Issues:\n\n" ++ String.join (Issue.all.map describeIssue) }

/-! ### Usage -/

def usage : String := "Usage: dslint [OPTIONS] <COMMAND>\n"

def helpText : String :=
  "Lint mandatory properties of builder-style DSL lambdas\n\n" ++ usage ++ "\n" ++
  "Commands:\n" ++
  "  check [OPTIONS] <PATH>  Check fact documents (alias: lint)\n" ++
  "  issues                  List the issues that are reported\n" ++
  "  help [COMMAND]          Print this help\n\n" ++
  "Options:\n" ++
  "  -v, --verbose           Accepted any number of times\n" ++
  "  -h, --help              Print this help\n" ++
  "  -V, --version           Print the version\n\n" ++
  "Options of check:\n" ++
  "  -c, --config <FILE>     Configuration (default: dslint.yaml or .dslint.yaml)\n" ++
  "  -f, --format <FORMAT>   pretty, json or sarif (default: pretty)\n" ++
  "      --show-suppressed   Show suppressed diagnostics\n"

def runHelp : Result := { exit := exitSuccess, stdout := helpText }

def runVersion : Result := { exit := exitSuccess, stdout := "dslint " ++ programVersion ++ "\n" }

/-- The answer to arguments that cannot be understood. -/
def runInvalid : Result := { exit := exitError, stderr := "error: invalid arguments\n\n" ++ usage }

end BuilderLint.CommandLine
