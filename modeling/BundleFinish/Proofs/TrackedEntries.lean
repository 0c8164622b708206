import BundleFinish.Proofs.CanonicalPaths
import BundleFinish.Proofs.EmissionOutcomes
import BundleFinish.Proofs.Preparation
import BundleFinish.Proofs.TrackedSources

/-! # Tracked entry points of a command line

A command line reports its resolved entry points as loaded. These are canonical, so the tracked
sources and the plan are the same list: the resolved entry points that the load filter matches, each
where it comes first (`CommandLine.tracked_and_plan_of_prepare`). Only the emission of declarations
warns, and it does so once at most. -/

namespace BundleFinish

open Build (Context LoadEvent OutputStage Progress Stage Tracker TrackedFiles Work)

/-! ## Warnings -/

/-- Emitting declarations adds one warning at most. -/
theorem Declarations.Emitter.length_warnings_run_le (emitter : Emitter) (context : Context)
    (progress : Progress) :
    (outcome (emitter.run context) progress).2.result.warnings.length ≤
      progress.result.warnings.length + 1 := by
  rcases errors : progress.result.hasErrors with _ | _
  · obtain ⟨⟨-, after, ran, -⟩ | ⟨-, cause, after, -, -, ran⟩ | ⟨call, emitted, completion⟩, -⟩ :=
      @exactly_one_outcome emitter context progress errors
    · rw [ran]
      exact Nat.le_succ _
    · rw [ran]
      exact Nat.le_succ _
    · rcases completion.warnings with ⟨-, warned⟩ | ⟨-, silent⟩
      · rw [warned, List.length_append, List.length_singleton]
      · rw [silent]
        exact Nat.le_succ _
  · rw [outcome_run_of_hasErrors errors]
    exact Nat.le_succ _

/-- Acting on the workspace leaves the result as it is. -/
theorem Build.Work.keeps_result_onWorkspace {α : Type} (action : Action Fault α) :
    Respects (Keeps Progress.result) (onWorkspace action) :=
  fun _ => rfl

/-- Wrapping scripts leaves the result as it is. -/
theorem Umd.result_run (globalName : String) (context : Context) (progress : Progress) :
    (outcome (run globalName context) progress).2.result = progress.result := by
  rcases errors : progress.result.hasErrors with _ | _
  · rw [outcome_run_of_clean errors]
    exact Respects.bind (Work.keeps_result_onWorkspace _)
      (fun _ => Work.keeps_result_onWorkspace _) progress
  · rw [outcome_run_of_hasErrors errors]

namespace Build.OutputStage

/-- Whether a stage emits declarations. -/
def emits : OutputStage → Bool
  | declarations _ => true
  | wrapping _ => false

/-- A stage adds a warning only if it emits declarations, and then one at most. -/
theorem length_warnings_stage_le (kind : OutputStage) (context : Context) (progress : Progress) :
    (outcome (kind.stage.run context) progress).2.result.warnings.length ≤
      progress.result.warnings.length + [kind].countP emits := by
  cases kind with
  | declarations emitter => exact emitter.length_warnings_run_le context progress
  | wrapping globalName => exact (congrArg (·.warnings.length) (Umd.result_run _ _ _)).le

/-- A run of stages adds at most as many warnings as stages of it emit declarations. -/
theorem length_warnings_runAll_le (kinds : List OutputStage) (context : Context)
    (progress : Progress) :
    (outcome (runAll context kinds) progress).2.result.warnings.length ≤
      progress.result.warnings.length + kinds.countP emits := by
  induction kinds generalizing progress with
  | nil => exact le_rfl
  | cons kind others ih =>
    have first := kind.length_warnings_stage_le context (kind.stage.announced progress)
    have counts : (kind :: others).countP emits = [kind].countP emits + others.countP emits := by
      rw [← List.singleton_append, List.countP_append]
    rw [outcome_runAll_cons, outcome_bind, counts, ← Nat.add_assoc]
    rcases ran : outcome (kind.stage.run context) (kind.stage.announced progress) with
      ⟨fault | _, between⟩
    · rw [ran] at first
      exact first.trans (Nat.le_add_right _ _)
    · rw [ran] at first
      exact (ih between).trans (Nat.add_le_add_right first _)

end Build.OutputStage

/-- One stage of a configuration at most emits declarations. -/
theorem Configuration.countP_emits_le (configuration : Configuration) :
    configuration.outputStages.countP OutputStage.emits ≤ 1 := by
  unfold outputStages
  rcases configuration.umd with _ | umd <;> split_ifs <;>
    simp [List.countP_cons, OutputStage.emits]

/-! ## Tracked entry points -/

/-- What is left of a list without repetitions depends on the comparison of its members only. -/
theorem eraseDupsBy_congr {α : Type} {r s : α → α → Bool} {members : List α}
    (alike : ∀ a ∈ members, ∀ b ∈ members, r a b = s a b) :
    members.eraseDupsBy r = members.eraseDupsBy s := by
  -- The loop compares the members that are left with those that it kept.
  have loop : ∀ rest kept : List α, (∀ a ∈ rest, a ∈ members) → (∀ b ∈ kept, b ∈ members) →
      List.eraseDupsBy.loop r rest kept = List.eraseDupsBy.loop s rest kept := by
    intro rest
    induction rest with
    | nil => exact fun _ _ _ => rfl
    | cons a others ih =>
      intro kept inRest inKept
      have isMember := inRest a List.mem_cons_self
      have compared : kept.any (r a) = kept.any (s a) := by
        rw [Bool.eq_iff_iff, List.any_eq_true, List.any_eq_true]
        exact exists_congr fun b => and_congr_right fun isKept => by
          rw [alike a isMember b (inKept b isKept)]
      have later := fun b member => inRest b (List.mem_cons_of_mem a member)
      rw [List.eraseDupsBy.loop, List.eraseDupsBy.loop, compared]
      rcases kept.any (s a) with _ | _
      · exact ih (a :: kept) later (List.forall_mem_cons.mpr ⟨isMember, inKept⟩)
      · exact ih kept later inKept
  exact loop members [] (fun _ member => member) fun _ none => absurd none List.not_mem_nil

namespace CommandLine

variable {arguments : Arguments} {workspace before after : Workspace} {context : Context}
  {stages : List Stage} {tracker : Tracker}

/-- Entry points that are reported as loaded are heard of by the tracker, one after the other. -/
theorem eq_hearAll_of_loadEntries {tracked loaded : TrackedFiles} {entries : List Path}
    (done : (outcome (loadEntries tracker tracked entries) workspace).1 = .ok loaded) :
    loaded = tracked.hearAll (entries.map (LoadEvent.mk tracker)) := by
  induction entries generalizing tracked workspace with
  | nil => exact (Except.ok.inj done).symm
  | cons entry others ih =>
    rw [outcome_loadEntries_cons] at done
    split_ifs at done
    rw [List.map_cons, TrackedFiles.hearAll_cons]
    exact ih done

/-- Of canonical entry points, those are tracked that the tracker keeps, each where it comes
first. -/
theorem paths_of_loadEntries {loaded : TrackedFiles} {entries : List Path}
    (canonical : ∀ entry ∈ entries, entry.IsCanonical)
    (done : (outcome (loadEntries tracker .empty entries) workspace).1 = .ok loaded) :
    loaded.paths = (entries.filter tracker.matchesPath).eraseDups := by
  have kept : LoadEvent.keptPaths (entries.map (LoadEvent.mk tracker)) =
      entries.filter tracker.matchesPath := by
    rw [LoadEvent.keptPaths, List.filter_map, List.map_map]
    exact List.map_id _
  rw [eq_hearAll_of_loadEntries done, TrackedFiles.paths_hearAll, kept]
  refine eraseDupsBy_congr fun p memberP q memberQ => ?_
  have canonicalP := canonical p (List.mem_filter.mp memberP).1
  have canonicalQ := canonical q (List.mem_filter.mp memberQ).1
  rw [Bool.eq_iff_iff, Path.same_iff, beq_iff_eq]
  exact ⟨canonicalP.eq_of_same canonicalQ, congrArg Path.components⟩

/-- A plan is all that is tracked, where only resolved entry points are. -/
theorem emissionPlan_eq_paths {directory : Path} (absolute : directory.isAbsolute = true)
    (entries : ∀ path ∈ context.tracked.paths, path ∈ context.options.resolvedEntries directory) :
    context.emissionPlan directory = context.tracked.paths := by
  rw [Context.emissionPlan, List.filter_eq_self]
  intro path member
  obtain ⟨entry, -, rfl⟩ := List.mem_map.mp (entries path member)
  have canonical := context.options.isCanonical_resolve absolute entry
  rw [context.options.resolve_of_isCanonical canonical]
  exact List.any_eq_true.mpr ⟨_, entries _ member, Path.same_iff.mpr rfl⟩

/-- A run that succeeds comes to the end of its stages, and counts the tracked sources and the
warnings. -/
theorem exists_of_execute_ok {result : Outcome}
    (prepared : outcome (prepare arguments) workspace = (.ok (context, stages), before))
    (done : outcome (execute arguments) workspace = (.ok result, after)) :
    ∃ progress, outcome (Stage.runAll context stages) ⟨before, .empty⟩ = (.ok (), progress) ∧
      result = ⟨context.tracked.paths.length, progress.result.warnings.length⟩ := by
  rw [execute, outcome_bind_ok prepared] at done
  dsimp only at done
  rcases ran : outcome (Stage.runAll context stages) ⟨before, .empty⟩ with ⟨fault | _, progress⟩
  · rw [outcome_bind_error (outcome_runStages ran)] at done
    cases done
  · rw [outcome_bind_ok (outcome_runStages ran), outcome_bind_ok (outcome_logResult _ _)] at done
    split_ifs at done
    · cases done
    · cases done
      exact ⟨progress, rfl, rfl⟩

/-- A run that is prepared has reported the resolved entry points of its configuration as loaded, to
a tracker with the load filter. -/
theorem exists_loadEntries_of_prepare
    (prepared : outcome (prepare arguments) workspace = (.ok (context, stages), before)) :
    ∃ configuration filter,
      loadConfiguration arguments (workingDirectory arguments workspace.directoryPath) workspace =
        .ok configuration ∧
      context.options =
        configuration.buildOptions (workingDirectory arguments workspace.directoryPath) ∧
      stages = configuration.stages ∧
      Pattern.compile configuration.loadFilter = .ok filter ∧
      (outcome (loadEntries ⟨filter⟩ .empty
        (context.options.resolvedEntries workspace.directoryPath)) workspace).1 =
          .ok context.tracked := by
  have verdict := congrArg Prod.fst prepared
  rw [outcome_prepare_fst] at verdict
  obtain ⟨directory, asked, verdict⟩ := exists_of_bind_eq_ok verdict
  obtain rfl : workspace.directoryPath = directory := by
    rcases Action.outcome_currentDirectory_cases workspace with ⟨-, told⟩ | ⟨-, told⟩ <;>
    rw [told] at asked <;> cases asked
    rfl
  obtain ⟨configuration, loaded, verdict⟩ := exists_of_bind_eq_ok verdict
  obtain ⟨tracker, tracks, verdict⟩ := exists_of_bind_eq_ok verdict
  obtain ⟨tracked, heard, same⟩ := exists_of_bind_eq_ok verdict
  cases same
  have listens := eq_ok_of_mapError tracks
  unfold Configuration.tracker Tracker.ofPattern at listens
  rcases compiled : Pattern.compile configuration.loadFilter with cause | filter
  · rw [compiled] at listens
    cases listens
  · rw [compiled] at listens
    cases listens
    exact ⟨configuration, filter, loaded, rfl, rfl, compiled, heard⟩

/-- **Tracked entry points.** In every run that comes to its stages, the tracked sources and the
plan are one list: the resolved entry points of the configuration that its load filter matches, each
where it comes first. No two of its paths resolve to one path. A run that succeeds counts the paths
of that list, and one warning at most. -/
theorem tracked_and_plan_of_prepare
    (prepared : outcome (prepare arguments) workspace = (.ok (context, stages), before)) :
    ∃ configuration filter,
      loadConfiguration arguments (workingDirectory arguments workspace.directoryPath) workspace =
        .ok configuration ∧
      context.options =
        configuration.buildOptions (workingDirectory arguments workspace.directoryPath) ∧
      Pattern.compile configuration.loadFilter = .ok filter ∧
      let entries := context.options.resolvedEntries workspace.directoryPath
      let sources := (entries.filter fun entry => filter.isMatch entry.display).eraseDups
      context.tracked.paths = sources ∧
      context.emissionPlan before.directoryPath = sources ∧
      (sources.Pairwise fun p q => context.options.resolve before.directoryPath p ≠
        context.options.resolve before.directoryPath q) ∧
      ∀ result after, outcome (execute arguments) workspace = (.ok result, after) →
        result.tracked = sources.length ∧ result.warnings ≤ 1 := by
  obtain ⟨configuration, filter, loaded, options, rfl, compiled, heard⟩ :=
    exists_loadEntries_of_prepare prepared
  obtain ⟨lines, rfl⟩ := (onlyLogs_prepare arguments).of_outcome prepared
  have absolute : workspace.directoryPath.isAbsolute = true := workspace.directory.isAbsolute_path
  have canonical : ∀ entry ∈ context.options.resolvedEntries workspace.directoryPath,
      entry.IsCanonical := by
    rintro _ member
    obtain ⟨entry, -, rfl⟩ := List.mem_map.mp member
    exact context.options.isCanonical_resolve absolute entry
  have tracked : context.tracked.paths =
      ((context.options.resolvedEntries workspace.directoryPath).filter fun entry =>
        filter.isMatch entry.display).eraseDups := paths_of_loadEntries canonical heard
  have entries : ∀ path ∈ context.tracked.paths,
      path ∈ context.options.resolvedEntries workspace.directoryPath := by
    intro path member
    rw [tracked, List.mem_eraseDups] at member
    exact (List.mem_filter.mp member).1
  refine ⟨configuration, filter, loaded, options, compiled, tracked,
    (emissionPlan_eq_paths absolute entries).trans tracked, ?_, ?_⟩
  · -- Canonical paths resolve to themselves, so two that resolve alike have the same components.
    refine List.Pairwise.imp_of_mem ?_ (tracked ▸ context.tracked.distinct)
    intro p q memberP memberQ distinct resolved
    rw [← tracked] at memberP memberQ
    rw [context.options.resolve_of_isCanonical (canonical p (entries p memberP)),
      context.options.resolve_of_isCanonical (canonical q (entries q memberQ))] at resolved
    exact distinct (congrArg Path.components resolved)
  · intro result after done
    obtain ⟨progress, ran, rfl⟩ := exists_of_execute_ok prepared done
    refine ⟨congrArg List.length tracked, ?_⟩
    have warned := OutputStage.length_warnings_runAll_le configuration.outputStages context
      ⟨{ workspace with log := workspace.log ++ lines }, .empty⟩
    rw [configuration.stages_eq] at ran
    rw [OutputStage.runAll, ran] at warned
    exact warned.trans ((Nat.zero_add _).le.trans configuration.countP_emits_le)

/-- The package with a compiler that warns, where the script is a text. -/
def readablePackage : Workspace :=
  { unreadablePackage with
    files := unreadablePackage.files.put [Utf8.encode "dist", Utf8.encode "index.js"]
      (.file (Utf8.encode "exports.a = 1;\n") none) }

/-- A run for the source of that package in two spellings, and for a file that is no source. -/
def respelledArguments : Arguments :=
  { Arguments.empty with
    entries := [.ofString "src/index.ts", .ofString "node_modules/.bin/tsc",
      .ofString "/dist/../src/./index.ts"] }

/-- The source that is given twice is tracked once, and the compiler is not. -/
theorem tracked_and_plan_of_prepare_sample :
    ∃ context stages before result after,
      outcome (prepare respelledArguments) readablePackage = (.ok (context, stages), before) ∧
      context.tracked.paths = [.ofString "/src/index.ts"] ∧
      context.emissionPlan before.directoryPath = context.tracked.paths ∧
      outcome (execute respelledArguments) readablePackage = (.ok result, after) ∧
      result.tracked = 1 ∧ result.warnings ≤ 1 := by
  rcases prepared : outcome (prepare respelledArguments) readablePackage with
    ⟨fault | ⟨context, stages⟩, before⟩
  · have done : (outcome (prepare respelledArguments) readablePackage).1.isOk = true := by
      decide +kernel
    rw [prepared] at done
    cases done
  rcases ran : outcome (execute respelledArguments) readablePackage with ⟨verdict, after⟩
  have done : (outcome (execute respelledArguments) readablePackage).1 = .ok ⟨1, 1⟩ := by
    decide +kernel
  rw [ran] at done
  obtain rfl : verdict = .ok ⟨1, 1⟩ := done
  have paths : (outcome (prepare respelledArguments) readablePackage).1.map
      (·.1.tracked.paths) = .ok [.ofString "/src/index.ts"] := by decide +kernel
  rw [prepared] at paths
  obtain ⟨_, _, -, -, -, tracked, planned, -, counted⟩ := tracked_and_plan_of_prepare prepared
  obtain ⟨count, warned⟩ := counted _ _ ran
  exact ⟨context, stages, before, _, after, rfl, Except.ok.inj paths,
    planned.trans tracked.symm, rfl, rfl, warned⟩

end CommandLine

end BundleFinish
