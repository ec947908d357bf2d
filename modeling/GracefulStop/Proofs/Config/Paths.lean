import GracefulStop.Command.Arguments
import GracefulStop.Proofs.Config.Load
import GracefulStop.Proofs.Files.Joining

/-!
# The paths of a configuration

The relative paths of a configuration are joined to a base, and that twice is that once to the joined
bases. So they are absolute if the base is, and are then the same from anywhere. A relative base leaves
them relative: what they lead to hangs on the working directory, and the base may not be joined to them
again.
-/

namespace GracefulStop

namespace Config

variable {config : Config} {base : Path}

/-- The paths of a configuration: where the files of runs are kept, and the installation if one is
named. -/
def paths (config : Config) : List Path := config.cluster.runDir :: config.cluster.home.toList

/-- All paths of a configuration are absolute. -/
def IsRooted (config : Config) : Prop := ∀ path ∈ config.paths, path.isAbsolute = true

/-- The configuration with other paths in place of its own. -/
def mapPaths (f : Path → Path) (config : Config) : Config :=
  { config with
    cluster :=
      { config.cluster with
        runDir := f config.cluster.runDir
        home := config.cluster.home.map f } }

theorem paths_mapPaths (f : Path → Path) : (config.mapPaths f).paths = config.paths.map f := by
  cases home : config.cluster.home <;> simp [paths, mapPaths, home]

theorem mapPaths_mapPaths (f g : Path → Path) :
    (config.mapPaths f).mapPaths g = config.mapPaths (g ∘ f) := by
  simp only [mapPaths, Option.map_map, Function.comp_apply]

theorem mapPaths_eq_iff {f g : Path → Path} :
    config.mapPaths f = config.mapPaths g ↔ ∀ path ∈ config.paths, f path = g path := by
  constructor
  · intro same
    have others := congrArg paths same
    rw [paths_mapPaths, paths_mapPaths] at others
    exact List.map_inj_left.mp others
  · intro alike
    have home : config.cluster.home.map f = config.cluster.home.map g :=
      Option.map_congr fun path named => alike path (by simp [paths, Option.mem_def.mp named])
    simp only [mapPaths, home, alike config.cluster.runDir (by simp [paths])]

/-- Joining leaves an absolute path as it is by itself. -/
theorem resolvePaths_eq (config : Config) (base : Path) :
    config.resolvePaths base = config.mapPaths (Path.join base) := by
  have joined : resolvePath base = Path.join base := by
    funext path
    unfold resolvePath
    split_ifs with absolute
    · exact (Path.join_absolute absolute).symm
    · rfl
  rw [resolvePaths, joined, mapPaths]

@[simp]
theorem paths_resolvePaths (config : Config) (base : Path) :
    (config.resolvePaths base).paths = config.paths.map (Path.join base) := by
  rw [resolvePaths_eq, paths_mapPaths]

theorem resolvePaths_resolvePaths (config : Config) (base other : Path) :
    (config.resolvePaths base).resolvePaths other = config.resolvePaths (Path.join other base) := by
  simp only [resolvePaths_eq, mapPaths_mapPaths, mapPaths_eq_iff, Function.comp_apply,
    Path.join_assoc, implies_true]

/-- Paths that were seen from an absolute directory are the same from any other. -/
theorem resolvePaths_again (absolute : base.isAbsolute = true) (merged : Config) (other : Path) :
    (merged.resolvePaths base).resolvePaths other = merged.resolvePaths base := by
  rw [resolvePaths_resolvePaths, Path.join_absolute absolute]

theorem isRooted_resolvePaths :
    (config.resolvePaths base).IsRooted ↔ base.isAbsolute = true ∨ config.IsRooted := by
  simp only [IsRooted, paths_resolvePaths, List.forall_mem_map, Path.isAbsolute_join, Bool.or_eq_true,
    forall_or_left]

theorem resolvePaths_twice_iff :
    (config.resolvePaths base).resolvePaths base = config.resolvePaths base ↔
      base = "" ∨ base.isAbsolute = true ∨ config.IsRooted := by
  rw [resolvePaths_resolvePaths, resolvePaths_eq, resolvePaths_eq, mapPaths_eq_iff]
  simp only [Path.join_assoc, Path.join_again_iff, forall_or_left, IsRooted]

/-- As steps, the paths are the same again also where the base does not lead away. -/
theorem steps_twice_iff :
    ((config.resolvePaths base).resolvePaths base).paths.map Path.steps =
        (config.resolvePaths base).paths.map Path.steps ↔
      base.parts = [] ∨ base.isAbsolute = true ∨ config.IsRooted := by
  simp only [paths_resolvePaths, List.map_map, List.map_inj_left, Function.comp_apply,
    Path.steps_join_again_iff, forall_or_left, IsRooted]

/-- After joining, all paths are absolute exactly if the base is or all were before. Those that were are
what they were, in a configuration that was loaded for an absolute project all of them from then on. To
do it twice changes nothing exactly if the base is absolute or empty or there are no relative paths; if
only the steps of the paths count, also if the base has none but points. And from a working directory the
paths lead where they would lead if the base had been seen from that directory first. -/
theorem resolvePaths_contract (config : Config) (base : Path) :
    ((config.resolvePaths base).IsRooted ↔ base.isAbsolute = true ∨ config.IsRooted) ∧
      (config.cluster.runDir.isAbsolute = true →
        (config.resolvePaths base).cluster.runDir = config.cluster.runDir) ∧
      (∀ home, config.cluster.home = some home → home.isAbsolute = true →
        (config.resolvePaths base).cluster.home = some home) ∧
      ((config.resolvePaths base).resolvePaths base = config.resolvePaths base ↔
        base = "" ∨ base.isAbsolute = true ∨ config.IsRooted) ∧
      (((config.resolvePaths base).resolvePaths base).paths.map Path.steps =
          (config.resolvePaths base).paths.map Path.steps ↔
        base.parts = [] ∨ base.isAbsolute = true ∨ config.IsRooted) ∧
      (∀ workingDir, (config.resolvePaths base).resolvePaths workingDir =
        config.resolvePaths (Path.join workingDir base)) ∧
      ∀ loader files environment loaded,
        ConfigLoader.load loader files environment = .ok loaded → loader.projectDir.isAbsolute = true →
          loaded.IsRooted ∧ ∀ other, loaded.resolvePaths other = loaded := by
  refine ⟨isRooted_resolvePaths, fun absolute => ?_, fun home named absolute => ?_,
    resolvePaths_twice_iff, steps_twice_iff, resolvePaths_resolvePaths config base, ?_⟩
  · rw [resolvePaths_eq]
    exact Path.join_absolute absolute
  · rw [resolvePaths_eq]
    simp [mapPaths, named, Path.join_absolute absolute]
  · intro loader files environment loaded loads absolute
    obtain ⟨_, merged, _, rfl, _⟩ := ConfigLoader.merged_of_load loads
    exact ⟨isRooted_resolvePaths.mpr (.inl absolute), resolvePaths_again absolute merged⟩

/-- A configuration with a relative path and an absolute one. -/
def mixed : Config where
  cluster := { home := some "/opt/crate" }

theorem resolvePaths_contract_of_mixed :
    (mixed.resolvePaths "/p").IsRooted ∧
      (mixed.resolvePaths "/p").paths = ["/p/.decom/runs", "/opt/crate"] ∧
      (mixed.resolvePaths "/p").resolvePaths "/p" = mixed.resolvePaths "/p" ∧
      ¬(mixed.resolvePaths "sub").IsRooted ∧
      (mixed.resolvePaths "sub").resolvePaths "sub" ≠ mixed.resolvePaths "sub" ∧
      (mixed.resolvePaths "sub").resolvePaths "/p" = mixed.resolvePaths "/p/sub" ∧
      (mixed.resolvePaths "sub").cluster.home = some "/opt/crate" ∧
      ((mixed.resolvePaths "/p").resolvePaths "sub").cluster.runDir = "/p/.decom/runs" ∧
      ∃ loaded, ConfigLoader.testedLoader.load
          (ConfigLoader.testedProject ConfigLoader.ownEntries ConfigLoader.testsEntries)
          ConfigLoader.testedVariables = .ok loaded ∧
        loaded.paths = ["/p/.decom/runs"] ∧ loaded.IsRooted ∧ loaded.resolvePaths "sub" = loaded := by
  have relative : ¬mixed.IsRooted := by
    intro rooted
    exact absurd (rooted ".decom/runs" (by simp [mixed, paths])) (by decide)
  obtain ⟨rooted, _, _, again, _, _, loads⟩ := resolvePaths_contract mixed "/p"
  obtain ⟨unrooted, _, home, twice, _, seen, _⟩ := resolvePaths_contract mixed "sub"
  have runDir := (resolvePaths_contract (mixed.resolvePaths "/p") "sub").2.1 (by decide)
  have loaded := (ConfigLoader.load_eq ConfigLoader.finds_tested).trans rfl
  obtain ⟨all, kept⟩ := loads _ _ _ _ loaded (by decide)
  refine ⟨rooted.mpr (.inl (by decide)), by decide, again.mpr (.inr (.inl (by decide))), ?_, ?_,
    seen "/p", home _ rfl (by decide), runDir.trans (by decide), _, loaded, by decide, all, kept "sub"⟩
  · rw [unrooted, not_or]
    exact ⟨by decide, relative⟩
  · rw [ne_eq, twice]
    simp only [not_or]
    exact ⟨by decide, by decide, relative⟩

/-- A project without files, seen from its own directory. -/
def bare : FileTree := { root := .directory [("p", .directory [])], workingDir := "/p" }

theorem finds_bare :
    ConfigLoader.Finds { projectDir := "." } bare []
      ⟨fun _ => none, fun _ => none, fun _ => none, fun _ => none, fun _ => none⟩ where
  user := rfl
  project := .inl ⟨(FileTree.exists?_eq _ (by decide)).trans rfl, rfl⟩
  machine := .inl ⟨(FileTree.exists?_eq _ (by decide)).trans rfl, rfl⟩
  named := rfl
  environment := { known := by simp, all := by simp }

/-- The project is the working directory unless it is told. Then the paths of its configuration are
relative, and for a project that is told by a relative path they are others when they are joined again.
-/
theorem relative_of_point :
    Command.Request.parse ["config"] = .command false (.config "." "text") ∧
      ConfigLoader.load { projectDir := "." } bare [] = .ok (({} : Config).resolvePaths ".") ∧
      (({} : Config).resolvePaths ".").paths = ["./.decom/runs"] ∧
      ¬(({} : Config).resolvePaths ".").IsRooted ∧
      (({} : Config).resolvePaths "sub").paths = ["sub/.decom/runs"] ∧
      ((({} : Config).resolvePaths "sub").resolvePaths "sub").paths = ["sub/sub/.decom/runs"] := by
  refine ⟨rfl, (ConfigLoader.load_eq finds_bare).trans rfl, by decide, ?_, by decide, by decide⟩
  intro rooted
  exact absurd (rooted "./.decom/runs" (by decide)) (by decide)

end Config

end GracefulStop
