/-!
# Paths

A path is its text. Nothing is simplified: joining puts the second path after the first,
unless the second is absolute, which then stands alone.
-/

namespace GracefulStop

/-- A path of the file system, as text. -/
abbrev Path := String

namespace Path

/-- Whether a path starts at the root. -/
def isAbsolute (path : Path) : Bool := path.toList.head? == some '/'

/-- The second path seen from the first. -/
def join (base path : Path) : Path :=
  if isAbsolute path || base.isEmpty then path
  else if base.toList.getLast? == some '/' then base ++ path
  else base ++ "/" ++ path

/-- The characters of a path from its end on, without strokes and single points after its last name.
-/
def bareReversed : List Char → List Char
  | '/' :: rest => bareReversed rest
  | '.' :: '/' :: rest => bareReversed rest
  | chars => chars

/-- A path without what follows its last name, parted into what stands before that name and the
name. A path that ends with two points, or has no name, leads to no file. -/
def splitName? (path : Path) : Option (List Char × List Char) :=
  let bare := bareReversed path.toList.reverse
  let name := (bare.takeWhile (· != '/')).reverse
  if name = [] || name = ['.'] || name = ['.', '.'] then none
  else some ((bare.dropWhile (· != '/')).reverse, name)

/-- A name parted at its last point, which is not its first character. -/
def splitEnding? (name : List Char) : Option (List Char × List Char) :=
  let reversed := name.reverse
  let stem := (reversed.dropWhile (· != '.')).drop 1
  if stem = [] then none else some (stem.reverse, (reversed.takeWhile (· != '.')).reverse)

/-- Whether the last name of a path has an ending. -/
def hasEnding (path : Path) : Bool :=
  (path.splitName?.bind fun (_, name) => splitEnding? name).isSome

/-- A path with another ending of its last name, or with one after it. -/
def withEnding (path : Path) (ending : String) : Path :=
  match path.splitName? with
  | some (front, name) =>
    let stem := match splitEnding? name with
      | some (stem, _) => stem
      | none => name
    String.ofList (front ++ stem) ++ "." ++ ending
  | none => path

end Path

end GracefulStop
