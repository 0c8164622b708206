import BundleFinish.Proofs.CompilerRuns
import BundleFinish.Proofs.ProjectRoots
import BundleFinish.Proofs.TrackedSources

/-! # Declarations inside the output directory

A declaration goes below the output directory by the steps that its source has behind the root, as
the source is spelled. Steps up among them can lead out of the output directory, and a source
without any step takes the place of the output directory itself; every other declaration is
strictly inside the output directory (`Declarations.Emitter.isInside_declarationPath_iff`). -/

namespace BundleFinish

namespace Path

variable {path directory : Path}

/-- A path is strictly inside a directory: it has more components behind those of the directory. -/
def IsInside (path directory : Path) : Prop :=
  ∃ rest ≠ [], path.components = directory.components ++ rest

/-- Steps without the name at their end, where there is one. -/
def withoutName (steps : List Component) : List Component :=
  match steps.getLast? with
  | some (.name _) => steps.dropLast
  | _ => steps

@[simp] theorem withoutName_nil : withoutName [] = [] := rfl

/-- The name at the end is left out. -/
@[simp] theorem withoutName_concat_name (before : List Component) (name : Bytes) :
    withoutName (before ++ [.name name]) = before := by
  rw [withoutName, List.getLast?_concat, List.dropLast_concat]

/-- Behind other steps, the name at the end is left out of the last ones. -/
theorem withoutName_append (before : List Component) {steps : List Component} (some : steps ≠ []) :
    withoutName (before ++ steps) = before ++ withoutName steps := by
  obtain ⟨others, last, rfl⟩ := (List.eq_nil_or_concat' steps).resolve_left some
  rw [withoutName, withoutName, ← List.append_assoc, List.getLast?_concat, List.getLast?_concat,
    List.dropLast_concat, List.dropLast_concat]
  cases last <;> simp

/-- Of names, the last one is left out. -/
theorem withoutName_map_name (names : Location) :
    withoutName (names.map .name) = names.dropLast.map .name := by
  rcases List.eq_nil_or_concat' names with rfl | ⟨before, last, rfl⟩
  · rfl
  · rw [List.map_append, List.map_singleton, withoutName_concat_name, List.dropLast_concat]

/-- Steps that are all names. -/
theorem exists_eq_map_name {steps : List Component}
    (areNames : ∀ step ∈ steps, ∃ name, step = .name name) :
    ∃ names : Location, steps = names.map .name := by
  induction steps with
  | nil => exact ⟨[], rfl⟩
  | cons step others ih =>
    obtain ⟨name, rfl⟩ := areNames step List.mem_cons_self
    obtain ⟨names, rfl⟩ := ih fun other member => areNames other (List.mem_cons_of_mem _ member)
    exact ⟨name :: names, rfl⟩

/-- A new file name stands behind the components without the old one. -/
theorem components_withFileName_eq (absolute : path.isAbsolute = true) {name : Bytes}
    (isName : isName name = true) :
    (path.withFileName name).components = withoutName path.components ++ [.name name] := by
  rcases last : path.fileName with _ | old
  · -- There is no name to be replaced, so the new one is added.
    have same : withoutName path.components = path.components := by
      unfold fileName at last
      unfold withoutName
      rcases atEnd : path.components.getLast? with _ | step
      · rfl
      · rw [atEnd] at last
        cases step with
        | name octets => cases last
        | _ => rfl
    rw [withFileName, last, same]
    exact components_join_name path isName
  · obtain ⟨above, -, -, shape⟩ := exists_parent absolute last
    rw [components_withFileName absolute last isName shape, shape, withoutName_concat_name]

/-- With a new file name, an absolute path stays absolute. -/
theorem isAbsolute_withFileName (absolute : path.isAbsolute = true) {name : Bytes}
    (isName : isName name = true) : (path.withFileName name).isAbsolute = true := by
  have relative := isAbsolute_of_isName isName
  rcases last : path.fileName with _ | old
  · rw [withFileName, last]
    exact (isAbsolute_join (octets_ne_nil_of_isAbsolute absolute) relative).trans absolute
  · obtain ⟨above, isParent, isAbsolute, -⟩ := exists_parent absolute last
    rw [withFileName, last, isParent]
    exact (isAbsolute_join (octets_ne_nil_of_isAbsolute isAbsolute) relative).trans isAbsolute

/-- A name at the end stays at the end when a path is cleaned. -/
theorem cleanComponents_concat_name (before : List Component) (name : Bytes) :
    cleanComponents (before ++ [.name name]) = cleanComponents before ++ [.name name] := by
  rw [cleanComponents, List.foldl_append, List.foldl_cons, List.foldl_nil, cleanStep,
    List.reverse_cons, cleanComponents]
  all_goals simp

/-- A path with a name at its end, cleaned, is inside a directory exactly if what stands before the
name, cleaned, is the directory or below it. -/
theorem isInside_clean_iff (absolute : path.isAbsolute = true) {before : List Component}
    {name : Bytes} (shape : path.components = before ++ [.name name]) :
    path.clean.IsInside directory ↔ directory.components <+: cleanComponents before := by
  rw [IsInside, components_clean absolute, shape, cleanComponents_concat_name]
  constructor
  · rintro ⟨rest, some, below⟩
    obtain ⟨others, last, rfl⟩ := (List.eq_nil_or_concat' rest).resolve_left some
    rw [← List.append_assoc] at below
    exact ⟨others, (List.append_inj_left' below rfl).symm⟩
  · rintro ⟨others, below⟩
    exact ⟨others ++ [.name name], by simp, by rw [← below, List.append_assoc]⟩

/-- Behind the root, an absolute path has steps up and names. -/
theorem eq_up_or_name_of_mem {step : Component} (absolute : path.isAbsolute = true)
    (member : step ∈ path.components.tail) : step = .up ∨ ∃ name, step = .name name := by
  rw [components_of_isAbsolute absolute, List.tail_cons] at member
  obtain ⟨piece, counted, rfl⟩ := List.mem_map.mp member
  obtain ⟨inPath, counts⟩ := List.mem_filter.mp counted
  rcases (isPlain_of_mem_pieces absolute inPath).component_cases counts with up | ⟨name, -, isName⟩
  · exact .inl up
  · exact .inr ⟨name, isName⟩

end Path

namespace Declarations

open BundleFinish.Path

variable {options : Options} {root out : Location} {source : Path}

namespace Options

/-- The steps from the output directory to the place of a source: those behind the root, or the
file name of a source that is not below the root. -/
def stepsTo (options : Options) (source : Path) : List Component :=
  if options.rootDir.components.isPrefixOf source.components then
    source.components.drop options.rootDir.components.length
  else source.fileName.toList.map .name

/-- The directory of a source, as it is spelled, leads from the output directory to that directory
or below it; and there are steps to the source, unless everything is below the output directory. -/
def LeadsInside (options : Options) (source : Path) : Prop :=
  (options.stepsTo source = [] → options.outDir = Path.root) ∧
    options.outDir.components <+:
      cleanComponents (options.outDir.components ++ withoutName (options.stepsTo source))

instance (options : Options) (source : Path) : Decidable (options.LeadsInside source) :=
  inferInstanceAs (Decidable (_ ∧ _))

/-- The place of a source is reached from the output directory by the steps to it. -/
theorem components_output_eq (source : Path) (isRoot : options.rootDir = root.path)
    (areRoot : root.AreNames) (isOut : options.outDir = out.path) :
    (options.output source).isAbsolute = true ∧
      (options.output source).components = options.outDir.components ++ options.stepsTo source := by
  by_cases below : options.rootDir.components.isPrefixOf source.components = true
  · obtain ⟨rest, shape⟩ := List.isPrefixOf_iff_prefix.mp below
    rw [stepsTo, if_pos below, ← shape, List.drop_left]
    exact components_output isRoot areRoot isOut shape.symm
  · -- A source that is elsewhere keeps its file name, or has none and is put at the directory.
    have ne : options.outDir.octets ≠ [] := isOut ▸ out.octets_path_ne_nil
    have absolute : options.outDir.isAbsolute = true := isOut ▸ out.isAbsolute_path
    rw [stepsTo, if_neg below, output, relativeTo, if_neg below]
    dsimp only
    rcases last : source.fileName with _ | name
    · rw [Option.getD_none]
      exact ⟨(isAbsolute_join ne rfl).trans absolute, components_join ne rfl⟩
    · have isName := isName_of_fileName last
      rw [Option.getD_some]
      exact ⟨(isAbsolute_join ne (isAbsolute_of_isName isName)).trans absolute,
        components_join_name _ isName⟩

/-- The declaration of a source stands behind the directory of the place of the source. -/
theorem exists_components_declarationPath_eq
    (absolute : (options.output source).isAbsolute = true) :
    (options.declarationPath source).isAbsolute = true ∧ ∃ name,
      (options.declarationPath source).components =
        withoutName (options.output source).components ++ [.name name] := by
  have isName : isName (Utf8.encode
      (((options.output source).fileStem.map Utf8.decodeLossy).getD "" ++ ".d.ts")) = true := by
    refine ArtifactPair.isName_declaration ?_
    rcases named : ArtifactPair.baseName? (options.output source) with _ | base
    · rw [ArtifactPair.baseName?] at named
      rw [named]
      exact List.not_mem_nil
    · have noSlash := ArtifactPair.slash_not_mem_baseName named
      rw [ArtifactPair.baseName?] at named
      rw [named]
      exact noSlash
  rw [declarationPath_eq]
  exact ⟨isAbsolute_withFileName absolute isName, _, components_withFileName_eq absolute isName⟩

/-- Without a step to its source, a declaration stands beside the output directory, unless that is
the root directory. -/
theorem prefix_withoutName_iff (areOut : out.AreNames) :
    out.path.components <+: cleanComponents (withoutName out.path.components) ↔
      out.path = Path.root := by
  rcases List.eq_nil_or_concat' out with rfl | ⟨above, last, rfl⟩
  · exact ⟨fun _ => rfl, fun _ => by decide⟩
  · have areAbove : Location.AreNames above :=
      fun name member => areOut name (List.mem_append_left _ member)
    have shape : (Location.path (above ++ [last])).components =
        (Location.path above).components ++ [.name last] := by
      rw [Location.components_path areOut, Location.components_path areAbove, List.map_append]
      rfl
    rw [shape, withoutName_concat_name, cleanComponents_path areAbove]
    -- The path is longer than the one above it, and longer than that of the root.
    constructor
    · intro below
      exact absurd below.length_le (by simp)
    · intro isRoot
      rw [isRoot] at shape
      have lengths := congrArg List.length shape
      rw [Location.components_path areAbove] at lengths
      simp [show Path.root.components = [.root] by decide] at lengths

/-- A declaration, cleaned, is strictly inside the output directory exactly if its source leads
inside. -/
theorem isInside_declarationPath_iff_leadsInside (isRoot : options.rootDir = root.path)
    (areRoot : root.AreNames) (isOut : options.outDir = out.path) (areOut : out.AreNames) :
    (options.declarationPath source).clean.IsInside options.outDir ↔
      options.LeadsInside source := by
  obtain ⟨absolute, place⟩ := components_output_eq source isRoot areRoot isOut
  obtain ⟨isAbsolute, name, shape⟩ := exists_components_declarationPath_eq absolute
  rw [isInside_clean_iff isAbsolute shape, place, LeadsInside]
  -- The new name takes the place of the last step, or without steps that of the directory itself.
  by_cases none : options.stepsTo source = []
  · rw [none, withoutName_nil, List.append_nil, isOut, prefix_withoutName_iff areOut,
      cleanComponents_path areOut]
    simp
  · rw [withoutName_append _ none]
    simp [none]

/-- The steps to a source that is spelled without a step up are names. -/
theorem exists_stepsTo_eq (isRoot : options.rootDir = root.path) (areRoot : root.AreNames)
    (noUp : .up ∉ source.components) :
    ∃ names : Location, options.stepsTo source = names.map .name := by
  refine exists_eq_map_name fun step member => ?_
  unfold stepsTo at member
  split_ifs at member with below
  · -- The root is absolute, so a source below it is absolute, and these steps are behind its root.
    obtain ⟨rest, shape⟩ := List.isPrefixOf_iff_prefix.mp below
    rw [isRoot, Location.components_path areRoot, List.cons_append] at shape
    have inSource : step ∈ source.components := List.mem_of_mem_drop member
    rw [isRoot, Location.components_path areRoot, List.length_cons, ← List.drop_tail] at member
    refine (eq_up_or_name_of_mem (isAbsolute_of_components shape.symm)
      (List.mem_of_mem_drop member)).resolve_left ?_
    rintro rfl
    exact noUp inSource
  · obtain ⟨name, -, rfl⟩ := List.mem_map.mp member
    exact ⟨name, rfl⟩

/-- A source that is spelled without a step up leads inside, unless there is no step to it and the
output directory is not the root directory. -/
theorem leadsInside_iff_of_up_not_mem (isRoot : options.rootDir = root.path)
    (areRoot : root.AreNames) (isOut : options.outDir = out.path) (areOut : out.AreNames)
    (noUp : .up ∉ source.components) :
    options.LeadsInside source ↔ (options.stepsTo source = [] → options.outDir = Path.root) := by
  obtain ⟨names, shape⟩ := exists_stepsTo_eq isRoot areRoot noUp
  rw [LeadsInside, and_iff_left]
  rw [shape, withoutName_map_name, isOut, cleanComponents_names areOut]
  exact List.prefix_append _ _

end Options

/-- A compiler that does its work to the end says that it wrote the declarations of all files. -/
theorem Compiler.files_of_emit {compiler : Compiler} {files : List Path}
    {before after : Workspace} {emitted : Emitted}
    (done : outcome (compiler.emit files options) before = (.ok emitted, after)) :
    emitted.files = files.map options.declarationPath := by
  obtain ⟨_, _, -, done⟩ := exists_of_outcome_bind_ok done
  obtain ⟨run, _, -, done⟩ := exists_of_outcome_bind_ok done
  rcases run with _ | execution
  · cases done
  · dsimp only at done
    rcases found : diagnosticsOf execution with cause | diagnostics
    · rw [found] at done
      cases done
    · rw [found] at done
      obtain ⟨_, _, -, done⟩ := exists_of_outcome_bind_ok done
      cases done
      rfl

namespace Emitter

open Build (Context LoadEvent)

/-- In a build, a declaration, cleaned, is strictly inside the output directory exactly if its
source leads inside; without steps up in its spelling, a step to the source is enough. -/
theorem isInside_iff_leadsInside (emitter : Emitter) (context : Context) (workspace : Workspace)
    (source : Path) :
    let options := emitter.options context workspace.directoryPath
    ((options.declarationPath source).clean.IsInside options.outDir ↔ options.LeadsInside source) ∧
      (.up ∉ source.components → (options.LeadsInside source ↔
        (options.stepsTo source = [] → options.outDir = Path.root))) := by
  intro options
  obtain ⟨root, areRoot, isRoot⟩ := context.options.exists_location_of_resolve
    workspace.directory.isAbsolute_path context.options.rootDir
  obtain ⟨out, areOut, isOut⟩ := context.options.exists_location_of_resolve
    workspace.directory.isAbsolute_path context.options.outDir
  exact ⟨Options.isInside_declarationPath_iff_leadsInside isRoot areRoot isOut areOut,
    Options.leadsInside_iff_of_up_not_mem isRoot areRoot isOut areOut⟩

/-- **Declarations inside the output directory.** The declaration of a source, cleaned, is strictly
inside the output directory exactly if the steps up in the spelling of the source behind the root do
not lead out of the output directory, and there is a step to the source or the output directory is
the root directory. So for a source that is spelled without steps up, only the latter matters. The
places of the declarations are those that a compiler says it wrote. -/
theorem isInside_declarationPath_iff (emitter : Emitter) (context : Context)
    (workspace : Workspace) :
    let options := emitter.options context workspace.directoryPath
    (∀ source, (options.declarationPath source).clean.IsInside options.outDir ↔
      options.LeadsInside source) ∧
    (∀ source : Path, .up ∉ source.components →
      ((options.declarationPath source).clean.IsInside options.outDir ↔
        (options.stepsTo source = [] → options.outDir = Path.root))) ∧
    ∀ (compiler : Compiler) files before emitted after,
      outcome (compiler.emit files options) before = (.ok emitted, after) →
        emitted.files = files.map options.declarationPath := by
  intro options
  refine ⟨fun source => ?_, fun source noUp => ?_, fun compiler files before emitted after done =>
    Compiler.files_of_emit done⟩
  · exact (isInside_iff_leadsInside emitter context workspace source).1
  · obtain ⟨inside, plain⟩ := isInside_iff_leadsInside emitter context workspace source
    exact inside.trans (plain noUp)

/-- A build of the package in the directory `pkg` whose sources were loaded in some spelling. -/
def spelledContext (entries spellings : List String) : Context :=
  .heard
    { Build.Options.default with
      cwd := .ofString "/pkg", entryPoints := entries.map .ofString }
    (spellings.map fun spelling => ⟨.standard, .ofString spelling⟩)

/-- The installed compiler of the package in the directory `pkg`. -/
def innerCompiler : Compiler :=
  ⟨.ofString "/pkg/node_modules/.bin/tsc", .ofString "/pkg", 120⟩

/-- Steps up that do not lead above the root leave the declaration inside, and so does a spelling
without steps up; the compiler says that it wrote both declarations. -/
theorem isInside_declarationPath_sample :
    let options := detectingEmitter.options (spelledContext ["src/a.ts", "src/b.ts"]
      ["/pkg/src/lib/../a.ts", "/pkg/src/b.ts"]) innerPackage.directoryPath
    (options.declarationPath (.ofString "/pkg/src/lib/../a.ts")).clean.IsInside options.outDir ∧
      (options.declarationPath (.ofString "/pkg/src/b.ts")).clean.IsInside options.outDir ∧
      ∃ emitted after, outcome (innerCompiler.emit [.ofString "/pkg/src/b.ts"] options)
          innerPackage = (.ok emitted, after) ∧
        emitted.files = [options.declarationPath (.ofString "/pkg/src/b.ts")] := by
  intro options
  obtain ⟨inside, plain, reported⟩ := isInside_declarationPath_iff detectingEmitter
    (spelledContext ["src/a.ts", "src/b.ts"] ["/pkg/src/lib/../a.ts", "/pkg/src/b.ts"])
    innerPackage
  refine ⟨(inside _).mpr (by decide +kernel),
    (plain _ (by decide)).mpr (fun none => absurd none (by decide +kernel)), ?_⟩
  have replied : (outcome (innerCompiler.emit [.ofString "/pkg/src/b.ts"] options)
      innerPackage).1 = .ok ⟨[], [options.declarationPath (.ofString "/pkg/src/b.ts")]⟩ := by
    decide +kernel
  have done : outcome (innerCompiler.emit [.ofString "/pkg/src/b.ts"] options) innerPackage =
      (.ok ⟨[], [options.declarationPath (.ofString "/pkg/src/b.ts")]⟩, _) := Prod.ext replied rfl
  exact ⟨_, _, done, reported _ _ _ _ _ done⟩

/-- Not every declaration of a plan is inside the output directory: a step up behind the root leads
out of it, and even where no source is spelled with a step up, the declaration of the root itself
stands beside it. -/
theorem not_forall_isInside_declarationPath :
    (¬∀ (emitter : Emitter) (options : Build.Options) (events : List LoadEvent)
        (workspace : Workspace),
      let context := Context.heard options events
      let told := emitter.options context workspace.directoryPath
      ∀ source ∈ context.emissionPlan workspace.directoryPath,
        (told.declarationPath source).clean.IsInside told.outDir) ∧
    ¬∀ (emitter : Emitter) (options : Build.Options) (events : List LoadEvent)
        (workspace : Workspace),
      let context := Context.heard options events
      let told := emitter.options context workspace.directoryPath
      ∀ source ∈ context.emissionPlan workspace.directoryPath, .up ∉ source.components →
        (told.declarationPath source).clean.IsInside told.outDir := by
  refine ⟨fun inside => ?_, fun inside => ?_⟩
  · have declared := inside detectingEmitter
      { Build.Options.default with cwd := .ofString "/pkg", entryPoints := [.ofString "x.ts"] }
      [⟨.standard, .ofString "/pkg/src/../x.ts"⟩] innerPackage (.ofString "/pkg/src/../x.ts")
      (by decide +kernel)
    exact absurd ((isInside_iff_leadsInside _ _ _ _).1.mp declared) (by decide +kernel)
  · have declared := inside detectingEmitter
      { Build.Options.default with
        cwd := .ofString "/pkg", rootDir := .ofString "lib.ts"
        entryPoints := [.ofString "lib.ts"] }
      [⟨.standard, .ofString "/pkg/lib.ts"⟩] innerPackage (.ofString "/pkg/lib.ts")
      (by decide +kernel) (by decide)
    exact absurd ((isInside_iff_leadsInside _ _ _ _).1.mp declared) (by decide +kernel)

end Emitter

end Declarations

end BundleFinish
