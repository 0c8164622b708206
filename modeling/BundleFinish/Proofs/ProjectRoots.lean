import BundleFinish.Proofs.CanonicalPaths
import BundleFinish.Proofs.Emission

/-! # The directory of a project

A build has a base directory, from which its relative paths are resolved, and a directory that is
taken for the project, which is the base directory resolved once more. A relative path is, after
cleaning, so many steps up and then names; to go its way twice comes to the same place as to go it
once exactly when the names make up for the steps up, or the steps up end at the root
(`Location.climb_climb_iff`). So the project is the base directory exactly for such base directories
and for absolute ones (`Declarations.Emitter.projectRoot_eq_resolve_here_iff`). -/

namespace BundleFinish

/-! ## Ways up and down -/

/-- Go so many steps up from a location, or to the root where there are fewer, and then along
names. -/
def Location.climb (start : Location) (ups : Nat) (names : Location) : Location :=
  start.take (start.length - ups) ++ names

namespace Location

variable (start names : Location) (ups : Nat)

@[simp] theorem length_climb :
    (start.climb ups names).length = start.length - ups + names.length := by
  rw [climb, List.length_append, List.length_take, Nat.min_eq_left (Nat.sub_le _ _)]

/-- Another name goes one step down. -/
theorem climb_concat (name : Bytes) :
    start.climb ups (names ++ [name]) = start.climb ups names ++ [name] := by
  rw [climb, climb, List.append_assoc]

/-- One more step up, from where there is no name to go back from. -/
theorem climb_succ_nil : start.climb (ups + 1) [] = (start.climb ups []).dropLast := by
  rw [climb, climb, List.append_nil, List.append_nil, List.dropLast_eq_take, List.take_take,
    List.length_take]
  congr 1
  omega

/-- To go a way twice comes to the place of going it once exactly if there are as many names as
steps up, or if there are fewer names and the steps up end at the root. -/
theorem climb_climb_iff :
    (start.climb ups names).climb ups names = start.climb ups names ↔
      names.length = ups ∨ (names.length < ups ∧ start.length ≤ ups) := by
  constructor
  · intro same
    have lengths := congrArg List.length same
    rw [length_climb, length_climb] at lengths
    omega
  · rintro (balanced | ⟨fewer, high⟩)
    · -- The steps up take back the names that were gone along before.
      have back : (start.climb ups names).take ((start.climb ups names).length - ups) =
          start.take (start.length - ups) := by
        rw [length_climb, balanced, Nat.add_sub_cancel, climb, List.take_left']
        rw [List.length_take, Nat.min_eq_left (Nat.sub_le _ _)]
      rw [climb, back, climb]
    · have down : start.climb ups names = names := by
        rw [climb, Nat.sub_eq_zero_of_le high, List.take_zero, List.nil_append]
      rw [down, climb, Nat.sub_eq_zero_of_le fewer.le, List.take_zero, List.nil_append]

end Location

namespace Path

variable {path : Path}

/-- Whether a component is a name, and so leads one step down. -/
def Component.isDown : Component → Bool
  | .name _ => true
  | _ => false

/-- The number of steps up that cleaning leaves of a path. -/
def ups (path : Path) : Nat := (cleanComponents path.components).count .up

/-- The number of names that cleaning leaves of a path. -/
def downs (path : Path) : Nat := (cleanComponents path.components).countP Component.isDown

/-- What is kept of a way that starts nowhere, the last component first. -/
def keptWay (ups : Nat) (names : Location) : List Component :=
  (names.map Component.name).reverse ++ List.replicate ups .up

/-- What is kept of the path of a location, the last component first. -/
def keptPlace (names : Location) : List Component := (names.map Component.name).reverse ++ [.root]

/-- A component of a relative path changes a way, in the same manner from everywhere. -/
theorem exists_cleanStep_keptWay {component : Component} (notRoot : component ≠ .root) (ups : Nat)
    (names : Location) :
    ∃ ups' names', cleanStep (keptWay ups names) component = keptWay ups' names' ∧
      ∀ start : Location, cleanStep (keptPlace (start.climb ups names)) component =
        keptPlace (start.climb ups' names') := by
  cases component with
  | root => exact absurd rfl notRoot
  | here => exact ⟨ups, names, rfl, fun start => rfl⟩
  | name octets =>
    refine ⟨ups, names ++ [octets], ?_, fun start => ?_⟩
    · simp [keptWay, cleanStep]
    · simp [keptPlace, Location.climb_concat, cleanStep]
  | up =>
    rcases List.eq_nil_or_concat' names with rfl | ⟨before, last, rfl⟩
    · refine ⟨ups + 1, [], ?_, fun start => ?_⟩
      · rcases ups with _ | ups <;> rfl
      · rw [Location.climb_succ_nil]
        rcases List.eq_nil_or_concat' (start.climb ups []) with none | ⟨above, last, shape⟩
        · rw [none]
          rfl
        · simp [shape, keptPlace, cleanStep]
    · refine ⟨ups, before, ?_, fun start => ?_⟩
      · simp [keptWay, cleanStep]
      · simp [keptPlace, Location.climb_concat, cleanStep]

/-- The components of a relative path are a way, the same from everywhere. -/
theorem exists_foldl_cleanStep_keptWay {components : List Component}
    (noRoot : .root ∉ components) (ups : Nat) (names : Location) :
    ∃ ups' names', components.foldl cleanStep (keptWay ups names) = keptWay ups' names' ∧
      ∀ start : Location, components.foldl cleanStep (keptPlace (start.climb ups names)) =
        keptPlace (start.climb ups' names') := by
  induction components generalizing ups names with
  | nil => exact ⟨ups, names, rfl, fun start => rfl⟩
  | cons component others ih =>
    rw [List.mem_cons, not_or] at noRoot
    obtain ⟨ups₁, names₁, way, place⟩ := exists_cleanStep_keptWay (Ne.symm noRoot.1) ups names
    obtain ⟨ups₂, names₂, ways, places⟩ := ih noRoot.2 ups₁ names₁
    refine ⟨ups₂, names₂, ?_, fun start => ?_⟩
    · rw [List.foldl_cons, way, ways]
    · rw [List.foldl_cons, place, places]

/-- A relative path is so many steps up and then names, from everywhere. -/
theorem exists_climb (relative : path.isAbsolute = false) :
    ∃ names : Location, names.length = path.downs ∧
      ∀ start : Location, path.components.foldl cleanStep (keptPlace start) =
        keptPlace (start.climb path.ups names) := by
  obtain ⟨ups, names, way, place⟩ :=
    exists_foldl_cleanStep_keptWay (root_not_mem_components relative) 0 []
  have left : cleanComponents path.components =
      List.replicate ups .up ++ names.map Component.name := by
    rw [cleanComponents, ← List.reverse_inj, List.reverse_reverse]
    exact way.trans (by simp [keptWay])
  have noUp : (names.map Component.name).count .up = 0 := by
    rw [List.count_eq_zero]
    simp
  have isUps : path.ups = ups := by
    rw [Path.ups, left, List.count_append, List.count_replicate_self, noUp, Nat.add_zero]
  refine ⟨names, ?_, fun start => ?_⟩
  · rw [downs, left, List.countP_append, List.countP_map, List.countP_replicate]
    simp [Component.isDown, Function.comp_def]
  · have whole := place start
    rw [isUps]
    rwa [Location.climb, Nat.sub_zero, List.take_length, List.append_nil] at whole

/-- An absolute path is the place with the names that cleaning leaves of it. -/
theorem exists_keptPlace (absolute : path.isAbsolute = true) :
    ∃ names : Location, names.length = path.downs ∧
      path.components.foldl cleanStep [] = keptPlace names := by
  obtain ⟨names, -, cleaned, -⟩ := exists_location_of_clean absolute
  refine ⟨names, ?_, ?_⟩
  · rw [downs, cleaned, List.countP_cons, List.countP_map]
    simp [Component.isDown, Function.comp_def]
  · have kept := congrArg List.reverse cleaned
    rwa [cleanComponents, List.reverse_reverse, List.reverse_cons] at kept

/-- Different places keep different components. -/
theorem keptPlace_injective : Function.Injective keptPlace := by
  intro names others same
  exact map_name_injective (List.reverse_injective (List.append_cancel_right same))

end Path

/-! ## The base directory and the project -/

namespace Build

open BundleFinish.Path

variable (options : Options) (context : Context) {directory : Path}

/-- A relative base directory, resolved once more, is the place of going its way twice. -/
theorem Options.resolve_cwd_eq_iff (absolute : directory.isAbsolute = true) :
    options.resolve directory options.cwd = options.resolve directory here ↔
      options.cwd.isAbsolute = true ∨ options.cwd.downs = options.cwd.ups ∨
        (options.cwd.downs < options.cwd.ups ∧ directory.downs ≤ options.cwd.ups) := by
  have absoluteBase := options.isAbsolute_base absolute
  rcases fixed : options.cwd.isAbsolute with _ | _
  · obtain ⟨names, isDowns, way⟩ := exists_climb fixed
    obtain ⟨start, startDowns, place⟩ := exists_keptPlace absolute
    have base : options.base directory = directory.join options.cwd := by
      rw [Options.base, if_neg (by simp [fixed])]
    have once : (options.base directory).components.foldl cleanStep [] =
        keptPlace (start.climb options.cwd.ups names) := by
      rw [base, foldl_cleanStep_join _ fixed, place, way]
    have twice : ((options.base directory).join options.cwd).components.foldl cleanStep [] =
        keptPlace ((start.climb options.cwd.ups names).climb options.cwd.ups names) := by
      rw [foldl_cleanStep_join _ fixed, once, way]
    have joined : ((options.base directory).join options.cwd).isAbsolute = true := by
      rw [isAbsolute_join (octets_ne_nil_of_isAbsolute absoluteBase) fixed]
      exact absoluteBase
    rw [options.resolve_here, Options.resolve, if_neg (by simp [fixed]),
      clean_eq_clean_iff joined absoluteBase, cleanComponents, cleanComponents,
      List.reverse_inj, twice, once, keptPlace_injective.eq_iff, Location.climb_climb_iff, isDowns,
      startDowns]
    simp
  · rw [options.resolve_here, Options.base, if_pos fixed, Options.resolve, if_pos fixed]
    simp

/-- A context with its resolved base directory in the place of the base directory. -/
def Context.anchored (directory : Path) : Context :=
  { context with
    options := { context.options with cwd := context.options.resolve directory here } }

/-- From the resolved base directory, all paths resolve as from the base directory. -/
theorem Context.resolve_anchored (absolute : directory.isAbsolute = true) (path : Path) :
    (context.anchored directory).options.resolve directory path =
      context.options.resolve directory path := by
  have base : (context.anchored directory).options.base directory =
      context.options.resolve directory here :=
    if_pos (context.options.isAbsolute_resolve absolute here)
  refine context.options.resolve_eq_of_clean_base absolute ?_ path
  rw [base, (context.options.isCanonical_resolve absolute here).clean_eq,
    context.options.resolve_here]

/-- From the resolved base directory, the same sources are planned. -/
theorem Context.emissionPlan_anchored (absolute : directory.isAbsolute = true) :
    (context.anchored directory).emissionPlan directory = context.emissionPlan directory := by
  have same := funext (context.resolve_anchored absolute)
  have entries : (context.anchored directory).options.resolvedEntries directory =
      context.options.resolvedEntries directory := by
    rw [Options.resolvedEntries, same]
    rfl
  rw [Context.emissionPlan, Context.emissionPlan, entries, same]
  rfl

end Build

namespace Declarations.Emitter

open Build (Context Progress)
open BundleFinish.Path (here)

variable {directory : Path}

/-- Where the project is the base directory, it is so for the resolved base directory as well. -/
theorem projectRoot_anchored (context : Context) (absolute : directory.isAbsolute = true) :
    projectRoot (context.anchored directory) directory =
      context.options.resolve directory here := by
  rw [projectRoot, context.resolve_anchored absolute]
  exact context.options.resolve_of_isCanonical
    (context.options.isCanonical_resolve absolute here) directory

/-- Where the project is the base directory, the stage does the same when it is given the resolved
base directory. -/
theorem outcome_run_anchored (emitter : Emitter) (context : Context) (progress : Progress)
    (same : projectRoot context progress.workspace.directoryPath =
      context.options.resolve progress.workspace.directoryPath here) :
    outcome (emitter.run (context.anchored progress.workspace.directoryPath)) progress =
      outcome (emitter.run context) progress := by
  have absolute : progress.workspace.directoryPath.isAbsolute = true :=
    progress.workspace.directory.isAbsolute_path
  rcases clean : progress.result.hasErrors with _ | _
  · have loads : Succeeds (emitter.source.load
        (projectRoot context progress.workspace.directoryPath)
        emitter.timeoutSecs : Action Fault _) := emitter.source.succeeds_load _ _
    obtain ⟨found, after, loaded⟩ := loads progress.workspace
    have again := loaded
    rw [same, ← projectRoot_anchored context absolute] at again
    have options : emitter.options (context.anchored progress.workspace.directoryPath)
        progress.workspace.directoryPath =
          emitter.options context progress.workspace.directoryPath := by
      rw [Emitter.options, Build.Options.resolvedRootDir, Build.Options.resolvedOutDir,
        context.resolve_anchored absolute, context.resolve_anchored absolute]
      rfl
    rw [outcome_run_of_load clean loaded, outcome_run_of_load clean again,
      context.emissionPlan_anchored absolute, options]
  · rw [outcome_run_of_hasErrors clean, outcome_run_of_hasErrors clean]

/-- **The project of a build.** The project is the resolved base directory exactly if the base
directory is absolute, or its cleaned path has as many names as steps up, or it has fewer names and
its steps up end at the root. In general it is the base directory of a process that works in the
base directory, while relative paths resolve behind the resolved base directory. Where the two are
one directory, the stage does the same when it is given that directory as the base directory. -/
theorem projectRoot_eq_resolve_here_iff (context : Context)
    (absolute : directory.isAbsolute = true) :
    (projectRoot context directory = context.options.resolve directory here ↔
      context.options.cwd.isAbsolute = true ∨
        context.options.cwd.downs = context.options.cwd.ups ∨
        (context.options.cwd.downs < context.options.cwd.ups ∧
          directory.downs ≤ context.options.cwd.ups)) ∧
    projectRoot context directory =
      context.options.resolve (context.options.base directory) here ∧
    (∀ path : Path, path.isAbsolute = false → context.options.resolve directory path =
      ((context.options.resolve directory here).join path).clean) ∧
    ∀ (emitter : Emitter) (progress : Progress), progress.workspace.directoryPath = directory →
      projectRoot context directory = context.options.resolve directory here →
      outcome (emitter.run (context.anchored directory)) progress =
        outcome (emitter.run context) progress := by
  refine ⟨context.options.resolve_cwd_eq_iff absolute, ?_, ?_, ?_⟩
  · rw [context.options.resolve_here, projectRoot]
    rcases fixed : context.options.cwd.isAbsolute with _ | _
    · have base : ∀ start, context.options.base start = start.join context.options.cwd :=
        fun start => if_neg (by simp [fixed])
      rw [Build.Options.resolve, if_neg (by simp [fixed]), base, base]
    · have base : ∀ start, context.options.base start = context.options.cwd :=
        fun start => if_pos fixed
      rw [Build.Options.resolve, if_pos fixed, base]
  · exact fun path relative => context.options.resolve_of_relative absolute relative
  · rintro emitter progress rfl same
    exact outcome_run_anchored emitter context progress same

/-- A base directory beside the working directory, spelled from there, is the project. -/
theorem projectRoot_eq_resolve_here_sample :
    projectRoot ⟨{ Build.Options.default with cwd := .ofString "../pkg" }, .empty⟩
      (.ofString "/work") = .ofString "/pkg" := by
  have absolute : (Path.ofString "/work").isAbsolute = true := by decide
  have whole := projectRoot_eq_resolve_here_iff
    ⟨{ Build.Options.default with cwd := .ofString "../pkg" }, .empty⟩ absolute
  exact (whole.1.mpr (.inr (.inl (by decide)))).trans (by decide)

/-! ## A project below the base directory -/

/-- A compiler that finds nothing to say. -/
def quietCompiler : Program where
  executable := true
  execute _ _ := some ⟨[], [], [], .exit 0⟩

/-- A package in the directory `pkg`, with one source and that compiler. -/
def innerPackage : Workspace :=
  .start
    (.ofNodes [([Utf8.encode "pkg"], .directory),
      ([Utf8.encode "pkg", Utf8.encode "src"], .directory),
      ([Utf8.encode "pkg", Utf8.encode "src", Utf8.encode "index.ts"],
        .file (Utf8.encode "export const a = 1;\n") none),
      ([Utf8.encode "pkg", Utf8.encode "node_modules"], .directory),
      ([Utf8.encode "pkg", Utf8.encode "node_modules", Utf8.encode ".bin"], .directory),
      ([Utf8.encode "pkg", Utf8.encode "node_modules", Utf8.encode ".bin", Utf8.encode "tsc"],
        .file [] (some quietCompiler))])
    [] [] none

/-- A build of that package, from the directory above it. -/
def innerContext : Context where
  options :=
    { Build.Options.default with
      cwd := .ofString "pkg", entryPoints := [.ofString "src/index.ts"] }
  tracked := Build.TrackedFiles.empty.insert (.ofString "/pkg/src/index.ts")

/-- An emitter that looks for an installed compiler. -/
def detectingEmitter : Emitter where
  source := .detect
  target := .es2020
  module := .commonJs
  declarationMap := false
  stripInternal := false
  timeoutSecs := 120

/-- The project is not always the base directory: below the base directory `pkg` it is `pkg/pkg`,
and a compiler that would find nothing to say there cannot be started. -/
theorem not_forall_projectRoot_eq_resolve_here :
    (¬∀ (context : Context) (directory : Path), directory.isAbsolute = true →
      projectRoot context directory = context.options.resolve directory here) ∧
    ¬∀ (emitter : Emitter) (context : Context) (progress : Progress),
      outcome (emitter.run (context.anchored progress.workspace.directoryPath)) progress =
        outcome (emitter.run context) progress := by
  refine ⟨fun same => ?_, fun same => ?_⟩
  · exact absurd (same innerContext .root (by decide)) (by decide)
  · have reported := congrArg (fun ended => ended.2.result.hasErrors)
      (same detectingEmitter innerContext ⟨innerPackage, .empty⟩)
    exact absurd reported (by decide +kernel)

end Declarations.Emitter

end BundleFinish
