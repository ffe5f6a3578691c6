import BuilderLint.CommandLine.Run

/-! The command line program.

What a request can reach is read from the disk first, into a file system held in
memory. The report depends on that alone. -/
namespace BuilderLint.CommandLine

/-! ### Reading the disk -/

/-- What has been read of the disk. -/
structure Snapshot where
  files : FileSystem
  /-- The places that have been read with everything below them. -/
  complete : List (List String)

namespace Snapshot

/-- The place of an absolute path without links. -/
def placeOf (path : String) : List String :=
  (Path.parts path).filter fun p => p != "" && p != "."

/-- A place on the disk. -/
def onDisk (place : List String) : IO.FS.DirEntry := ⟨"/", "/".intercalate place⟩

def start (working : List String) : Snapshot :=
  ⟨⟨Entry.insert (.directory []) working (.directory []), working⟩, []⟩

def insert (s : Snapshot) (place : List String) (e : Entry) : Snapshot :=
  { s with files := { s.files with root := Entry.insert e place s.files.root } }

def covers (s : Snapshot) (place : List String) : Bool :=
  s.complete.any fun c => c.isPrefixOf place

/-- The real place of a link, unless it is broken. -/
def targetOf (place : List String) : IO (Option (List String)) := do
  match ← (IO.FS.realPath (onDisk place).path).toBaseIO with
  | .ok path => return some (placeOf path.toString)
  | .error _ => return none

def linkTo : Option (List String) → Entry
  | some place => .link ("/" ++ "/".intercalate place)
  | none => .link ""

/-- An entry of the disk with everything below it, and the places that its links lead to. Of the
files only fact documents are read. Entries of other types are left out. -/
partial def readEntry (place : List String) : StateT (List (List String)) IO (Option Entry) := do
  match (← (onDisk place).path.symlinkMetadata).type with
  | .file =>
    let name := place.getLastD ""
    if (Format.ofPath? name).isSome then
      return some (.file (← IO.FS.readBinFile (onDisk place).path))
    else return some (.file .empty)
  | .dir =>
    let children ← (onDisk place).path.readDir
    let entries ← children.toList.filterMapM fun child => do
      return (← readEntry (place ++ [child.fileName])).map fun e => (child.fileName, e)
    return some (.directory entries)
  | .symlink =>
    let target ← targetOf place
    modify (target.toList ++ ·)
    return some (linkTo target)
  | .other => return none

/-- Reads places with everything below them, and all that their links lead to. -/
partial def readPlaces (s : Snapshot) : List (List String) → IO Snapshot
  | [] => return s
  | place :: rest => do
    if s.covers place then readPlaces s rest
    else
      let (e, targets) ← (readEntry place).run []
      let s := match e with
        | some e => s.insert place e
        | none => s
      readPlaces { s with complete := place :: s.complete } (targets ++ rest)

/-- Reads what a path leads to, from a directory. -/
partial def readPath (s : Snapshot) (dir : List String) : List String → IO Snapshot
  | [] => s.readPlaces [dir]
  | "" :: rest => s.readPath dir rest
  | "." :: rest => s.readPath dir rest
  | ".." :: rest => s.readPath dir.dropLast rest
  | name :: rest => do
    let place := dir ++ [name]
    match ← (onDisk place).path.symlinkMetadata.toBaseIO with
    | .error _ => return s
    | .ok found =>
      match found.type with
      | .file => return s.insert place (.file (← IO.FS.readBinFile (onDisk place).path))
      | .dir =>
        let s := if (s.files.root.descend? place).isSome then s
          else s.insert place (.directory [])
        s.readPath place rest
      | .symlink =>
        let target ← targetOf place
        let s := s.insert place (linkTo target)
        match target with
        | some target => s.readPath target.dropLast (target.drop (target.length - 1) ++ rest)
        | none => return s
      | .other => return s

/-- Reads what a path leads to from the working directory. -/
def readFrom (s : Snapshot) (path : String) : IO Snapshot :=
  s.readPath (FileSystem.start s.files.working path) (Path.parts path)

end Snapshot

/-- The part of the disk that a request can reach. -/
def CheckRequest.reach (request : CheckRequest) : IO FileSystem := do
  let working ← IO.FS.realPath "."
  let configs := match request.config with
    | some path => [path]
    | none => Config.fileNames
  let mut s := Snapshot.start (Snapshot.placeOf working.toString)
  for path in request.path :: configs do
    s ← s.readFrom path
  return s.files

/-! ### Running -/

/-- Prints a result. Returns its exit code. -/
def Result.report (r : Result) : IO UInt32 := do
  IO.print r.stdout
  IO.eprint r.stderr
  return r.exit.toUInt32

def coloursShown : IO Bool := do
  let wish : Style.Wish := {
    force := ← IO.getEnv "CLICOLOR_FORCE"
    never := ← IO.getEnv "NO_COLOR"
    usual := ← IO.getEnv "CLICOLOR" }
  return wish.shown (← (← IO.getStdout).isTty)

def Request.run : Request → IO UInt32
  | .check request => do (runCheck (← request.reach) (← coloursShown) request).report
  | .issues => runIssues.report
  | .help => runHelp.report
  | .version => runVersion.report
  | .invalid => runInvalid.report

end BuilderLint.CommandLine

def main (args : List String) : IO UInt32 := do
  let request := BuilderLint.CommandLine.Request.ofArguments args
  try request.run
  catch e => (BuilderLint.CommandLine.Result.error (toString e)).report
