import RanConsole.Mapping

/-!
# Paths

Steps with slashes between them. Files are known by paths that take no step back, and a directory is there as long as a file is in it.
-/

namespace RanConsole.Config

/-- A path of steps, from the root or from the place where the program is. -/
def pathFrom (isFromRoot : Bool) (steps : List String) : String :=
  (if isFromRoot then "/" else "") ++ "/".intercalate steps

/-- The steps of a path that lead somewhere. -/
def stepsOf (path : String) : List String :=
  ((path.toList.splitOn '/').map String.ofList).filter fun step => step ≠ "" ∧ step ≠ "."

/-- Whether a path leads from the root. -/
def isFromRoot (path : String) : Bool := path.toList.head? == some '/'

/-- A path as it is shown. -/
def shownPath (path : String) : String :=
  if (stepsOf path).isEmpty && !isFromRoot path then "." else pathFrom (isFromRoot path) (stepsOf path)

/-- The steps without those that are taken back. -/
def withoutReturns (taken : List String) : List String → List String
  | [] => taken.reverse
  | step :: rest => withoutReturns (if step = ".." then taken.tail else step :: taken) rest

/-- A path by which a file is known. -/
def resolvedPath (path : String) : String :=
  pathFrom (isFromRoot path) (withoutReturns [] (stepsOf path))

/-- What is at a path. -/
inductive Place where
  | file (text : String)
  | directory
  | nothing
  deriving DecidableEq, Repr

/-- What is at a path among files. The place where the program is is a directory. -/
def placeOf (files : List (String × String)) (path : String) : Place :=
  let path := resolvedPath path
  match Mapping.get? path files with
  | some text => .file text
  | none =>
    if path = "" || files.any fun (other, _) => (path ++ "/").toList.isPrefixOf other.toList then .directory else .nothing

end RanConsole.Config
