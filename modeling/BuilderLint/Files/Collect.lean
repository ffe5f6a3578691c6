import BuilderLint.Files.Tree
import BuilderLint.Glob.Match

/-! Collecting fact documents.

A directory is walked with all directories below it, through symbolic links. Below
the start, hidden directories and build output are left out. The files whose path
below the start matches the patterns are returned in the order of their paths. -/
namespace BuilderLint

/-- Why a directory cannot be walked. -/
inductive WalkError where
  | unreadable (path : String) (why : FileError)
  /-- A link leads to a directory that the walk is in. -/
  | loop (link ancestor : String)
deriving DecidableEq, Repr

namespace WalkError

/-- The error with its cause. -/
def message : WalkError → String
  | .unreadable path why =>
    "IO error for operation on " ++ path ++ ": " ++ why.text ++ ": " ++ why.text
  | .loop link ancestor =>
    "File system loop found: " ++ link ++ " points to an ancestor " ++ ancestor

end WalkError

/-- A directory that the walk is in: its place, and the path that led there. -/
structure Ancestor where
  place : List String
  path : String

/-- A file found by the walk. -/
structure FoundFile where
  /-- The path that led there. -/
  path : String
  /-- The path below the start. -/
  relative : String

namespace FileSystem

/-- Whether a directory is left out. -/
def isSkipped (name : String) : Bool :=
  name.toList.head? == some '.' || name == "build" || name == "target"

/-- Walks a directory: its ancestors, itself first, its path, its path below the start, its entries. -/
abbrev Walk :=
  List Ancestor → String → String → List (String × Entry) → Except WalkError (List FoundFile)

/-- An entry behind a link if it is one, and its place. -/
def follow (fs : FileSystem) (dir : List String) (path name : String) :
    Entry → Except WalkError (List String × Entry)
  | .link _ =>
    match fs.lookup dir name with
    | .ok found => .ok found
    | .error why => .error (.unreadable path why)
  | e => .ok (dir ++ [name], e)

/-- The files among the entries of a directory, in order, and `below` them. Only a link can lead back
to an ancestor, so only links are checked, whatever their name. -/
def walkEntries (fs : FileSystem) (below : Walk) : Walk
  | _, _, _, [] => .ok []
  | ancestors, path, relative, (name, e) :: rest => do
    let childPath := Path.join path name
    let childRelative := Path.join relative name
    let dir := (ancestors.head?.map Ancestor.place).getD []
    let (place, target) ← fs.follow dir childPath name e
    let found ← match target with
      | .file _ => pure [⟨childPath, childRelative⟩]
      | .directory es =>
        match if e.isLink then ancestors.find? fun a => a.place == place else none with
        | some a => throw (.loop childPath a.path)
        | none =>
          if isSkipped name then pure []
          else below (⟨place, childPath⟩ :: ancestors) childPath childRelative es
      | .link _ => pure []
    let others ← walkEntries fs below ancestors path relative rest
    return found ++ others

/-- Walks so many levels of directories at most. -/
def walkLevels (fs : FileSystem) : Nat → Walk
  | 0 => fun _ path _ _ => .error (.unreadable path .tooManyLinks)
  | n + 1 => walkEntries fs (walkLevels fs n)

/-- All files at and below a path. Every link that is followed adds a directory to the ancestors that
was not among them, so the levels are bounded. -/
def walk (fs : FileSystem) (path : String) : Except WalkError (List FoundFile) :=
  match fs.lookup fs.working path with
  | .error why => .error (.unreadable path why)
  | .ok (_, .file _) => .ok [⟨path, ""⟩]
  | .ok (place, .directory es) =>
    let n := fs.root.directories + 1
    fs.walkLevels (n * n) [⟨place, path⟩] path "" es
  | .ok (_, .link _) => .ok []

/-- The paths of the files at and below a path whose path below it matches the patterns. -/
def collect (fs : FileSystem) (path : String) (wanted : Glob.PatternSet) :
    Except WalkError (List String) := do
  let found ← fs.walk path
  let kept := found.filter fun f => wanted.isMatch f.relative
  return (kept.map FoundFile.path).mergeSort Path.notAfter

end FileSystem
end BuilderLint
