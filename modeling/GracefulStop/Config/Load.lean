import GracefulStop.FileTree
import GracefulStop.Layer.Decode
import GracefulStop.Layer.Environment
import GracefulStop.Layer.KeyPath
import GracefulStop.Toml.Parser

/-!
# Loading configurations

A configuration is loaded from layers, each of which wins over those before it: the built-in values,
the files of the user and of the project, a file that is named, and the environment. Relative paths
are then seen from the project, and the result is checked.
-/

namespace GracefulStop

/-- A file that gives a layer. -/
inductive ConfigSource where
  /-- The file of the user, for all projects. -/
  | user
  /-- The file of the project. -/
  | project
  /-- The file of the project for this machine alone. -/
  | machine
  /-- A file that is named, and has to be there. -/
  | named
  deriving DecidableEq, Repr

/-- The word for a source. -/
def ConfigSource.label : ConfigSource → String
  | user => "user"
  | project => "project"
  | machine => "local"
  | named => "explicit"

/-- Why a configuration cannot be loaded. -/
inductive LoadError where
  /-- A layer cannot be read. -/
  | build
  /-- The layers make no configuration. -/
  | decode
  | invalid (error : ConfigError)
  deriving Repr

/-- The text of an error. -/
def LoadError.message : LoadError → String
  | build => "Failed to build configuration"
  | decode => "Failed to deserialize configuration"
  | invalid error => error.message

/-- Where the layers of a configuration are looked for. -/
structure ConfigLoader where
  projectDir : Path
  /-- How the names of variables begin, before an underscore. -/
  stem : String := "DECOM"
  userFile : Option Path := none
  namedFile : Option Path := none
  deriving DecidableEq, Repr

namespace ConfigLoader

/-- The file of a project. -/
def projectFile : String := "decom.toml"

/-- The file of a project for one machine. -/
def machineFile : String := "decom.local.toml"

/-- The files that may give layers, in the order of the layers. -/
def optionalFiles (loader : ConfigLoader) : List (ConfigSource × Path) :=
  (match loader.userFile with
    | some path => [(.user, path)]
    | none => []) ++
    [(.project, Path.join loader.projectDir projectFile),
      (.machine, Path.join loader.projectDir machineFile)]

/-- The file that has to give a layer. -/
def requiredFiles (loader : ConfigLoader) : List (ConfigSource × Path) :=
  match loader.namedFile with
  | some path => [(.named, path)]
  | none => []

/-- The files that give layers, in the order of the layers: of those that may be missing, the ones
that are there. -/
def sources (loader : ConfigLoader) (files : FileTree) : List (ConfigSource × Path) :=
  loader.optionalFiles.filter (fun source => files.exists? source.2) ++ loader.requiredFiles

/-- What stands after an ending, so that the ending is not replaced. -/
def placeholder : String := "placeholder"

/-- The path at which a file with the ending of the files that are read is looked for. The ending is
put after the last name of a path that has none. After one that has an ending it is put at the end
of the path, where after a stroke it makes a name of its own. -/
def withEnding (path : Path) : Path :=
  let marked := if path.hasEnding then path ++ "." ++ placeholder else path.withEnding placeholder
  marked.withEnding "toml"

/-- The octets of the file that a path means: the one that it leads to, or else the one of its name
with an ending. -/
def octets? (files : FileTree) (path : Path) : Option (List UInt8) :=
  (files.octets? path).or (files.octets? (withEnding path))

/-- The paths at which a loader looks for files. -/
def candidates (loader : ConfigLoader) : List Path :=
  (loader.optionalFiles ++ loader.requiredFiles).flatMap fun (_, path) => [path, withEnding path]

/-- The text of a file, without the mark of its encoding at its front. -/
def textOf (octets : List UInt8) : String :=
  String.ofList (Toml.Text.skipMark (Text.ofUtf8 octets).toList)

/-- The layer of a file. -/
def layerOf (files : FileTree) (source : ConfigSource × Path) :
    Except LoadError (List (String × Layer.Value)) :=
  match octets? files source.2 with
  | some octets =>
    match Toml.read? (textOf octets) with
    | some entries => .ok (Layer.Value.entriesOfToml entries)
    | none => .error .build
  | none => if source.1 = .named then .error .build else .ok []

/-- The layers, from the lowest on. -/
def layers (loader : ConfigLoader) (files : FileTree) (environment : Environment) :
    Except LoadError (List (List (String × Layer.Value))) := do
  let fileLayers ← (loader.sources files).mapM (layerOf files)
  .ok ((({} : Config).layer :: fileLayers) ++ [environment.layer loader.stem])

/-- The configuration that layers make. -/
def combine (layers : List (List (String × Layer.Value))) : Except LoadError Config :=
  match Config.ofValue? (layers.foldl Layer.Value.withLayer (.table [])) with
  | some config => .ok config
  | none => .error .decode

/-- Loads a configuration. -/
def load (loader : ConfigLoader) (files : FileTree) (environment : Environment) :
    Except LoadError Config := do
  let layers ← loader.layers files environment
  let config ← combine layers
  let resolved := config.resolvePaths loader.projectDir
  match resolved.validate with
  | .ok () => .ok resolved
  | .error error => .error (.invalid error)

/-- Loads a configuration, or else gives the built-in one. -/
def loadOrDefault (loader : ConfigLoader) (files : FileTree) (environment : Environment) : Config :=
  match loader.load files environment with
  | .ok config => config
  | .error _ => {}

end ConfigLoader

end GracefulStop
