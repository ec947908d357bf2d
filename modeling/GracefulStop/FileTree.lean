import GracefulStop.Path
import GracefulStop.Text.Utf8

/-!
# File trees

The files that a program finds. A directory need not be listed if something in it is. A path is
walked part by part, each of them in a directory; two points lead to the directory above.
-/

namespace GracefulStop

/-- What stands in a file tree. -/
inductive File where
  | regular (octets : List UInt8) (executable : Bool)
  /-- A directory with its entries by their names. -/
  | directory (entries : List (String × File))
  deriving Inhabited

/-- Files from the root on, seen from a working directory. -/
structure FileTree where
  root : File := .directory []
  workingDir : Path

/-- The names of a path, of which some may be empty or single points. -/
def Path.names (path : Path) : List String := path.splitOn "/"

/-- Why a path cannot be used. -/
inductive FileError where
  | notFound
  | notDirectory
  | alreadyExists
  | isDirectory
  | nameTooLong
  /-- A name with a character that no file system takes. -/
  | badName
  /-- What the path leads to cannot be executed. -/
  | denied
  /-- A file that is no program. -/
  | noProgram
  /-- A file that leads to another, again and again. -/
  | tooManyLinks
  deriving DecidableEq, Repr, Inhabited

/-- The text of an error. -/
def FileError.message : FileError → String
  | notFound => "No such file or directory (os error 2)"
  | notDirectory => "Not a directory (os error 20)"
  | alreadyExists => "File exists (os error 17)"
  | isDirectory => "Is a directory (os error 21)"
  | nameTooLong => "File name too long (os error 36)"
  | badName => "file name contained an unexpected NUL byte"
  | denied => "Permission denied (os error 13)"
  | noProgram => "Exec format error (os error 8)"
  | tooManyLinks => "Too many levels of symbolic links (os error 40)"

/-- The greatest number of octets of a name. -/
def longestName : Nat := 255

/-- The number of octets that a path does not reach. -/
def pathLimit : Nat := 4096

/-- Why a file system does not take a text as a path. -/
def Path.error? (path : Path) : Option FileError :=
  if path.isEmpty then some .notFound
  else if path.toList.contains '\x00' then some .badName
  else if pathLimit ≤ path.utf8ByteSize then some .nameTooLong
  else none

namespace File

/-- What stands at the end of names. -/
def at? : File → List String → Option File
  | file, [] => some file
  | .directory entries, name :: rest => (entries.lookup name).bind fun file => at? file rest
  | .regular .., _ :: _ => none

/-- What stands in a place with a file at the end of names from there. What is missing on the way is
made, and what is in the way gives way. -/
def withFile (file : File) : List String → Option File → File
  | [], _ => file
  | name :: rest, place =>
    let entries := match place with
      | some (.directory entries) => entries
      | _ => []
    .directory ((name, withFile file rest (entries.lookup name)) :: entries.filter (·.1 != name))

/-- What stands in a place, without what stands at the end of names from there. -/
def without : List String → File → File
  | [name], .directory entries => .directory (entries.filter (·.1 != name))
  | name :: rest, .directory entries =>
    .directory (entries.map fun entry =>
      if entry.1 = name then (name, without rest entry.2) else entry)
  | _, file => file

/-- Whether it is a directory. -/
def isDirectory : File → Bool
  | .directory _ => true
  | .regular .. => false

end File

namespace FileTree

/-- What stands at the end of names. -/
def at? (tree : FileTree) (names : List String) : Option File := tree.root.at? names

/-- The tree with a file at the end of names. -/
def withFile (tree : FileTree) (names : List String) (file : File) : FileTree :=
  { tree with root := File.withFile file names (some tree.root) }

/-- The tree without what stands at the end of names. -/
def without (tree : FileTree) (names : List String) : FileTree :=
  { tree with root := tree.root.without names }

/-- The tree with a directory at the end of names, unless something stands there. -/
def withDir (tree : FileTree) (names : List String) : FileTree :=
  if (tree.at? names).isSome then tree else tree.withFile names (.directory [])

/-- The tree of these files, each at the end of names. Directories on the way are not listed. -/
def ofFiles (workingDir : Path) (files : List (List String × File)) : FileTree :=
  files.foldl
    (fun tree (names, file) =>
      if file.isDirectory then tree.withDir names else tree.withFile names file)
    { workingDir }

/-- Where one name leads from a directory. -/
def goTo (here : List String) (name : String) : List String :=
  if name = "" || name = "." then here
  else if name = ".." then here.dropLast
  else here ++ [name]

/-- The names at which a walk along more names ends. -/
def walk (tree : FileTree) (here : List String) : List String → Except FileError (List String)
  | [] => .ok here
  | name :: rest =>
    match tree.at? here with
    | some (.directory _) =>
      if longestName < name.utf8ByteSize then .error .nameTooLong
      else walk tree (goTo here name) rest
    | some (.regular ..) => .error .notDirectory
    | none => .error .notFound

/-- A path as the working directory makes it. -/
def fullPath (tree : FileTree) (path : Path) : Path :=
  if path.isEmpty then path else Path.join tree.workingDir path

/-- The names of the place that a path leads to. -/
def resolve (tree : FileTree) (path : Path) : Except FileError (List String) :=
  match path.error? with
  | some error => .error error
  | none => tree.walk [] (tree.fullPath path).names

/-- What a path leads to. -/
def find? (tree : FileTree) (path : Path) : Option File :=
  match tree.resolve path with
  | .ok names => tree.at? names
  | .error _ => none

/-- Whether a path leads to anything. -/
def exists? (tree : FileTree) (path : Path) : Bool := (tree.find? path).isSome

/-- The working directory as the names on the way to it say. -/
def workingDirText (tree : FileTree) : Path :=
  match tree.walk [] tree.workingDir.names with
  | .ok names => "/" ++ String.intercalate "/" names
  | .error _ => tree.workingDir

/-- The octets of the regular file that a path leads to. -/
def octets? (tree : FileTree) (path : Path) : Option (List UInt8) :=
  match tree.find? path with
  | some (.regular octets _) => some octets
  | _ => none

/-- The octets of the file that a path leads to and that can be executed. -/
def executable (tree : FileTree) (path : Path) : Except FileError (List UInt8) := do
  match tree.at? (← tree.resolve path) with
  | some (.regular octets true) => .ok octets
  | some _ => .error .denied
  | none => .error .notFound

/-- The names at which a walk ends that makes the directories that are missing, and the tree with
them. -/
def makeWalk (tree : FileTree) (here : List String) :
    List String → Except FileError (List String × FileTree)
  | [] => .ok (here, tree)
  | name :: rest =>
    if longestName < name.utf8ByteSize then .error .nameTooLong
    else
      let next := goTo here name
      match tree.at? next with
      | some (.directory _) => makeWalk tree next rest
      | some (.regular ..) => .error (if rest.isEmpty then .alreadyExists else .notDirectory)
      | none => makeWalk (tree.withDir next) next rest

/-- The tree with the directory that a path leads to, which is made if it is missing, like all on
the way to it. Where a single point ends the path, the directory before the point has to be there
once those on the way to it are made. -/
def makeDir (tree : FileTree) (path : Path) : Except FileError FileTree :=
  match path.error? with
  | some error => .error error
  | none =>
    let names := (tree.fullPath path).names.filter (· != "")
    let kept := names.filter (· != ".")
    if names.getLast? = some "." then do
      let (above, tree) ← tree.makeWalk [] kept.dropLast
      match tree.at? (← tree.walk above (kept.drop (kept.length - 1))) with
      | some (.directory _) => .ok tree
      | some (.regular ..) => .error .notDirectory
      | none => .error .notFound
    else (tree.makeWalk [] kept).map (·.2)

/-- The names of the place that a path leads to. What stands at its end may be missing. -/
def place (tree : FileTree) (path : Path) : Except FileError (List String) := do
  let names ← tree.resolve path
  match tree.at? names.dropLast with
  | some (.directory _) => .ok names
  | some (.regular ..) => .error .notDirectory
  | none => .error .notFound

/-- The tree with a regular file of these octets at a place. -/
def put (tree : FileTree) (names : List String) (octets : List UInt8) : Except FileError FileTree :=
  match tree.at? names with
  | some (.directory _) => .error .isDirectory
  | _ => .ok (tree.withFile names (.regular octets false))

/-- The tree with a regular file of these octets at a path from a directory, which is made if it is
missing. -/
def write (tree : FileTree) (dir path : Path) (octets : List UInt8) :
    Except FileError FileTree := do
  let tree ← tree.makeDir dir
  tree.put (← tree.place (Path.join dir path)) octets

/-- The tree with octets put after those of the file at a path from a directory; both are made if
they are missing. -/
def append (tree : FileTree) (dir path : Path) (octets : List UInt8) :
    Except FileError FileTree := do
  let tree ← tree.makeDir dir
  let names ← tree.place (Path.join dir path)
  match tree.at? names with
  | some (.regular before _) => tree.put names (before ++ octets)
  | _ => tree.put names octets

/-- The names in the directory that a path leads to, each with whether it is a regular file. -/
def listing (tree : FileTree) (dir : Path) : List (String × Bool) :=
  match tree.find? dir with
  | some (.directory entries) => entries.map fun (name, file) => (name, !file.isDirectory)
  | _ => []

end FileTree

end GracefulStop
