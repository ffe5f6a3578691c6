import BuilderLint.Files.Path

/-! Files, directories and symbolic links.

A file system is a tree of entries with a working directory. A path is followed
component by component from the working directory, or from the root if it is
absolute; a symbolic link stands for the path it holds, seen from its own
directory. A directory is known by the names that lead to it without links. -/
namespace BuilderLint

/-- An entry of a directory. -/
inductive Entry where
  | file (content : ByteArray)
  | directory (entries : List (String × Entry))
  | link (target : String)

instance : Inhabited Entry := ⟨.directory []⟩

/-- Why a file cannot be read. -/
inductive FileError where
  | notFound
  | notDirectory
  | isDirectory
  | tooManyLinks
  | invalidText
deriving DecidableEq, Repr

namespace FileError

def text : FileError → String
  | .notFound => "No such file or directory (os error 2)"
  | .notDirectory => "Not a directory (os error 20)"
  | .isDirectory => "Is a directory (os error 21)"
  | .tooManyLinks => "Too many levels of symbolic links (os error 40)"
  | .invalidText => "stream did not contain valid UTF-8"

end FileError

namespace Entry

def entries : Entry → List (String × Entry)
  | .directory es => es
  | _ => []

def isDirectory : Entry → Bool
  | .directory _ => true
  | _ => false

def isFile : Entry → Bool
  | .file _ => true
  | _ => false

def isLink : Entry → Bool
  | .link _ => true
  | _ => false

def child? (e : Entry) (name : String) : Option Entry :=
  (e.entries.find? fun c => c.1 == name).map Prod.snd

/-- The entry that the names lead to, no link among them. -/
def descend? : Entry → List String → Option Entry
  | e, [] => some e
  | e, name :: rest =>
    match e.child? name with
    | some c => c.descend? rest
    | none => none

/-- The entries with one of them replaced, or added behind the others. -/
def put (name : String) (e : Entry) : List (String × Entry) → List (String × Entry)
  | [] => [(name, e)]
  | (n, old) :: rest => if n = name then (n, e) :: rest else (n, old) :: put name e rest

/-- Puts an entry where the names lead to; directories that are not there are made. -/
def insert (e : Entry) : List String → Entry → Entry
  | [], _ => e
  | name :: rest, parent =>
    let old := (parent.child? name).getD (.directory [])
    .directory (put name (insert e rest old) parent.entries)

mutual

/-- The number of directories. -/
def directories : Entry → Nat
  | .directory es => directoriesIn es + 1
  | _ => 0

def directoriesIn : List (String × Entry) → Nat
  | [] => 0
  | (_, e) :: rest => e.directories + directoriesIn rest

end

end Entry

/-- A tree of entries and a working directory in it. -/
structure FileSystem where
  root : Entry
  working : List String

namespace FileSystem

/-! ### Following paths -/

/-- How far a path leads without following a link. -/
inductive Step where
  | arrived (place : List String)
  | failed (e : FileError)
  /-- A link stands in the directory; the rest of the path is to be followed from its target. -/
  | link (dir : List String) (target : String) (rest : List String)

/-- Follows the parts of a path from a directory up to the first link. -/
def step (fs : FileSystem) (dir : List String) : List String → Step
  | [] => .arrived dir
  | part :: rest =>
    match fs.root.descend? dir with
    | some (.directory es) =>
      if part = "" || part = "." then fs.step dir rest
      else if part = ".." then fs.step dir.dropLast rest
      else
        match (es.find? fun c => c.1 == part).map Prod.snd with
        | none => .failed .notFound
        | some (.link target) => .link dir target rest
        | some _ => fs.step (dir ++ [part]) rest
    | some _ => .failed .notDirectory
    | none => .failed .notFound

def start (dir : List String) (path : String) : List String :=
  if Path.isAbsolute path then [] else dir

/-- Follows a path through so many links at most. -/
def resolveWithin (fs : FileSystem) : Nat → List String → List String → Except FileError (List String)
  | links, dir, parts =>
    match fs.step dir parts, links with
    | .arrived place, _ => .ok place
    | .failed e, _ => .error e
    | .link _ _ _, 0 => .error .tooManyLinks
    | .link dir target rest, links + 1 =>
      if target.isEmpty then .error .notFound
      else fs.resolveWithin links (start dir target) (Path.parts target ++ rest)

/-- The place that a path leads to, seen from a directory. Forty links may be followed. -/
def resolveFrom (fs : FileSystem) (dir : List String) (path : String) :
    Except FileError (List String) :=
  if path.isEmpty then .error .notFound
  else fs.resolveWithin 40 (start dir path) (Path.parts path)

/-- The entry that a path leads to, and its place. -/
def lookup (fs : FileSystem) (dir : List String) (path : String) :
    Except FileError (List String × Entry) := do
  let place ← fs.resolveFrom dir path
  match fs.root.descend? place with
  | some e => return (place, e)
  | none => throw .notFound

/-- The entry that a path leads to from the working directory. -/
def entry (fs : FileSystem) (path : String) : Except FileError Entry :=
  (fs.lookup fs.working path).map Prod.snd

def isFile (fs : FileSystem) (path : String) : Bool :=
  match fs.entry path with
  | .ok e => e.isFile
  | .error _ => false

/-- The text of a file. -/
def readText (fs : FileSystem) (path : String) : Except FileError String := do
  match ← fs.entry path with
  | .file content =>
    match String.fromUTF8? content with
    | some text => return text
    | none => throw .invalidText
  | _ => throw .isDirectory

/-! ### Building -/

/-- An empty working directory. -/
def empty : FileSystem := ⟨.directory [("work", .directory [])], ["work"]⟩

/-- Puts an entry at a path of names below the working directory, through the links on the way. -/
def add (fs : FileSystem) (path : String) (e : Entry) : FileSystem :=
  let names := (Path.parts path).filter fun p => p != "" && p != "."
  let parent := names.dropLast
  let place := match fs.resolveWithin 40 fs.working parent with
    | .ok place => place
    | .error _ => fs.working ++ parent
  { fs with root := Entry.insert e (place ++ names.drop (names.length - 1)) fs.root }

end FileSystem
end BuilderLint
