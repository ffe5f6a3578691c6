/-! Paths.

A path is a text. Its components are what stands between the slashes; repeated
slashes and a dot that is not the first component make no difference to them.
Paths are ordered component by component, so `a/x` comes before `a.json`. -/
namespace BuilderLint.Path

/-- What stands between the slashes, empty pieces included. -/
def pieces : List Char → List (List Char)
  | [] => [[]]
  | c :: rest =>
    if c = '/' then [] :: pieces rest
    else
      match pieces rest with
      | piece :: others => (c :: piece) :: others
      | [] => [[c]]

def parts (path : String) : List String := (pieces path.toList).map String.ofList

def isAbsolute (path : String) : Bool := path.toList.head? == some '/'

/-- An entry of a directory. -/
def join (dir name : String) : String :=
  if dir.isEmpty || dir.toList.getLast? == some '/' then dir ++ name else dir ++ "/" ++ name

/-! ### Components and their order -/

inductive Component where
  | root
  | current
  | parent
  | name (s : String)
deriving DecidableEq, Repr

namespace Component

def rank : Component → Nat
  | .root => 0
  | .current => 1
  | .parent => 2
  | .name _ => 3

def text : Component → String
  | .root => "/"
  | .current => "."
  | .parent => ".."
  | .name s => s

def before (a b : Component) : Bool :=
  a.rank < b.rank || (a.rank == b.rank && a.text < b.text)

end Component

def components (path : String) : List Component :=
  let named := (parts path).filter fun p => p != "" && p != "."
  let rest := named.map fun p => if p == ".." then Component.parent else .name p
  if isAbsolute path then .root :: rest
  else if (parts path).head? == some "." then .current :: rest
  else rest

/-- Whether one list of components may stand before another. -/
def componentsNotAfter : List Component → List Component → Bool
  | [], _ => true
  | _ :: _, [] => false
  | a :: as, b :: bs => a.before b || (a == b && componentsNotAfter as bs)

/-- Whether one path may stand before another. -/
def notAfter (a b : String) : Bool := componentsNotAfter (components a) (components b)

/-! ### Names and extensions -/

/-- The last component, if it is a name. -/
def fileName? (path : String) : Option String :=
  match (components path).getLast? with
  | some (.name s) => some s
  | _ => none

/-- What stands behind the last dot of the name; a dot in front of it all does not count. -/
def extension? (path : String) : Option String :=
  (fileName? path).bind fun name =>
    let reversed := name.toList.reverse
    let after := (reversed.takeWhile (· != '.')).reverse
    match reversed.dropWhile (· != '.') with
    | _ :: _ :: _ => some (String.ofList after)
    | _ => none

end BuilderLint.Path
