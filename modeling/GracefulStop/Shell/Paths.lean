import GracefulStop.Shell.State

/-!
# Patterns of paths

A field with the signs of a pattern stands for the paths that fit it, in order. Each part of a path
fits a part of the pattern. Where no path fits, the field stands for itself.
-/

namespace GracefulStop.Shell

/-- Whether characters hold a sign that makes a pattern of them. -/
def isPattern (marks : List Mark) : Bool :=
  marks.any fun (c, quoted) => !quoted && "*?[".toList.contains c

/-- The names in a directory that a part of a pattern fits. A point at the start of a name has to be
named. -/
def namesOf (files : FileTree) (directory : Path) (part : List Mark) : List String :=
  let pattern := patternOf part.length part
  let isSeen (name : String) := !Text.beginsWith name "." || part.head?.any (·.1 == '.')
  let names := "." :: ".." :: (files.listing directory).map (·.1)
  (names.filter fun name => isSeen name && fits pattern name.toList).mergeSort (· ≤ ·)

/-- The paths that the parts of a pattern fit, behind what comes before them. -/
def pathsFrom (files : FileTree) : (before : Path) → List (List Mark) → List Path
  | before, [] => if files.exists? before then [before] else []
  | before, part :: rest =>
    let names :=
      if isPattern part then namesOf files (if before = "" then "." else before) part
      else [textOfMarks part]
    names.flatMap fun name =>
      pathsFrom files (before ++ name ++ (if rest.isEmpty then "" else "/")) rest

/-- What a field stands for. -/
def State.pathsOf (state : State) (field : List Mark) : List String :=
  let paths :=
    if isPattern field && !state.options.contains 'f' then
      pathsFrom state.files "" (field.splitOnP (·.1 == '/'))
    else []
  if paths.isEmpty then [textOfMarks field] else paths

end GracefulStop.Shell
