/-! The arguments of the command line.

Arguments are read from left to right, and the first one that asks for help or
cannot be understood decides. Options may be written apart from their value or
joined to it, short ones also in a cluster; two dashes end the options. -/
namespace BuilderLint.CommandLine

/-- What to check and how to report it. -/
structure CheckRequest where
  path : String
  config : Option String := none
  format : String := "pretty"
  showSuppressed : Bool := false
deriving DecidableEq, Repr

/-- What the arguments ask for. -/
inductive Request where
  | check (request : CheckRequest)
  | issues
  | help
  | version
  /-- The arguments cannot be understood. -/
  | invalid
deriving DecidableEq, Repr

/-! ### Options -/

/-- What an argument stands for. -/
inductive Argument where
  | positional (text : String)
  /-- `--name` or `--name=value`. -/
  | long (name : String) (value : Option String)
  /-- One dash and a cluster of letters. -/
  | short (letters : List Char)
  /-- Two dashes. -/
  | endOfOptions

def Argument.ofText (text : String) : Argument :=
  match text.toList with
  | ['-', '-'] => .endOfOptions
  | '-' :: '-' :: cs =>
    let name := String.ofList (cs.takeWhile (· != '='))
    match cs.dropWhile (· != '=') with
    | _ :: value => .long name (some (String.ofList value))
    | [] => .long name none
  | '-' :: c :: cs => .short (c :: cs)
  | _ => .positional text

/-- An option of the check command with a value. -/
inductive ValueOption where
  | config
  | format

/-- The options read so far. -/
structure Partial where
  path : Option String := none
  config : Option String := none
  format : Option String := none
  showSuppressed : Bool := false

namespace Partial

/-- Sets an option that has not been set before. A configuration's path is not empty. -/
def set? (p : Partial) (option : ValueOption) (value : String) : Option Partial :=
  match option with
  | .config => if p.config.isSome || value.isEmpty then none else some { p with config := some value }
  | .format => if p.format.isSome then none else some { p with format := some value }

/-- Sets the path, once. -/
def setPath? (p : Partial) (path : String) : Option Partial :=
  if p.path.isSome || path.isEmpty then none else some { p with path := some path }

def request (p : Partial) : Request :=
  match p.path with
  | some path => .check {
      path
      config := p.config
      format := p.format.getD "pretty"
      showSuppressed := p.showSuppressed }
  | none => .invalid

end Partial

/-! ### The check command -/

/-- How a cluster of letters ends. -/
inductive ClusterEnd where
  | done
  | help
  | invalid
  /-- An option, with the rest of the cluster as its value if there is one. -/
  | option (o : ValueOption) (value : Option String)

def checkCluster : List Char → ClusterEnd
  | [] => .done
  | 'v' :: rest => checkCluster rest
  | 'h' :: _ => .help
  | 'c' :: rest => .option .config (joined rest)
  | 'f' :: rest => .option .format (joined rest)
  | _ :: _ => .invalid
where
  /-- A value joined to its letter, behind an equals sign if there is one. -/
  joined : List Char → Option String
    | [] => none
    | '=' :: value => some (String.ofList value)
    | value => some (String.ofList value)

/-- Arguments behind two dashes are paths. -/
def checkPaths : Partial → List String → Request
  | p, [] => p.request
  | p, path :: rest =>
    match p.setPath? path with
    | some p => checkPaths p rest
    | none => .invalid

/-- The arguments of the check command. `waiting` is an option whose value comes next. -/
def checkArguments : Option ValueOption → Partial → List String → Request
  | some _, _, [] => .invalid
  | none, p, [] => p.request
  | waiting, p, text :: rest =>
    match waiting, Argument.ofText text with
    | some option, .positional value =>
      match p.set? option value with
      | some p => checkArguments none p rest
      | none => .invalid
    | some _, _ => .invalid
    | none, .positional path =>
      match p.setPath? path with
      | some p => checkArguments none p rest
      | none => .invalid
    | none, .endOfOptions => checkPaths p rest
    | none, .long name value =>
      match name, value with
      | "help", none => .help
      | "verbose", none => checkArguments none p rest
      | "show-suppressed", none =>
        if p.showSuppressed then .invalid
        else checkArguments none { p with showSuppressed := true } rest
      | "config", none => checkArguments (some .config) p rest
      | "format", none => checkArguments (some .format) p rest
      | "config", some value =>
        match p.set? .config value with
        | some p => checkArguments none p rest
        | none => .invalid
      | "format", some value =>
        match p.set? .format value with
        | some p => checkArguments none p rest
        | none => .invalid
      | _, _ => .invalid
    | none, .short letters =>
      match checkCluster letters with
      | .done => checkArguments none p rest
      | .help => .help
      | .invalid => .invalid
      | .option option none => checkArguments (some option) p rest
      | .option option (some value) =>
        match p.set? option value with
        | some p => checkArguments none p rest
        | none => .invalid

/-! ### The other commands -/

/-- The outcome of a cluster of letters that take no value. -/
def flagCluster (hasVersion : Bool) : List Char → Option Request
  | [] => none
  | 'v' :: rest => flagCluster hasVersion rest
  | 'h' :: _ => some .help
  | 'V' :: _ => some (if hasVersion then .version else .invalid)
  | _ :: _ => some .invalid

def issuesArguments : List String → Request
  | [] => .issues
  | text :: rest =>
    match Argument.ofText text with
    | .endOfOptions => if rest.isEmpty then .issues else .invalid
    | .long "help" none => .help
    | .long "verbose" none => issuesArguments rest
    | .short letters => (flagCluster false letters).getD (issuesArguments rest)
    | _ => .invalid

def isCheck (name : String) : Bool := name == "check" || name == "lint"

/-- The arguments of the help command: one command at most. -/
def helpArguments : List String → Request
  | [] => .help
  | [name] => if isCheck name || name == "issues" || name == "help" then .help else .invalid
  | _ => .invalid

/-- What the arguments ask for. A command is needed. -/
def Request.ofArguments : List String → Request
  | [] => .invalid
  | text :: rest =>
    match Argument.ofText text with
    | .positional name =>
      if isCheck name then checkArguments none {} rest
      else if name == "issues" then issuesArguments rest
      else if name == "help" then helpArguments rest
      else .invalid
    | .long "help" none => .help
    | .long "version" none => .version
    | .long "verbose" none => ofArguments rest
    | .short letters => (flagCluster true letters).getD (ofArguments rest)
    | _ => .invalid

end BuilderLint.CommandLine
