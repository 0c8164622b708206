import BundleFinish.CommandLine.Run
import BundleFinish.Proofs.Pipeline

/-! # Reports of a run

A command line writes what its stages reported into the log, but only behind stages that come to
their end. Where a stage ends in a fault, what was reported before it is lost. -/

namespace BundleFinish

open Build (Context Message OutputStage Progress Result Stage Tracker TrackedFiles)
open Declarations (CheckerSource Compiler TypeChecker)

/-! ## Stages of a configuration -/

/-- A source gives a compiler, or the type-checker that it was given. -/
theorem Declarations.CheckerSource.MayGive.cases {source : CheckerSource} {checker : TypeChecker}
    (given : source.MayGive checker) :
    (∃ compiler : Compiler, checker = compiler.checker) ∨ source = .fixed checker := by
  obtain ⟨projectRoot, timeoutSecs, before, after, loaded⟩ := given
  rcases source with _ | path | given | _
  · obtain ⟨found, between, -, rest⟩ := exists_of_outcome_bind_ok loaded
    rcases found with _ | path
    · cases rest
    · cases rest
      exact .inl ⟨_, rfl⟩
  · obtain ⟨workspace, between, -, rest⟩ := exists_of_outcome_bind_ok loaded
    by_cases there : workspace.exists? path = true
    · rw [if_pos there] at rest
      cases rest
      exact .inl ⟨_, rfl⟩
    · rw [if_neg there] at rest
      cases rest
  · cases loaded
    exact .inr rfl
  · cases loaded

namespace Configuration

/-- The stages of a configuration, by their kinds. -/
def outputStages (configuration : Configuration) : List OutputStage :=
  (if configuration.declarations.enabled then
      [.declarations (emitter configuration.declarations)] else [])
    ++ match configuration.umd with
      | some umd => [.wrapping umd.globalName]
      | none => []

/-- A configuration has stages of the two kinds. -/
theorem stages_eq (configuration : Configuration) :
    configuration.stages = configuration.outputStages.map OutputStage.stage := by
  unfold stages outputStages
  rw [List.map_append]
  congr 1
  · by_cases enabled : configuration.declarations.enabled = true
    · rw [if_pos enabled, if_pos enabled]
      rfl
    · rw [if_neg enabled, if_neg enabled]
      rfl
  · rcases configuration.umd with _ | umd <;> rfl

/-- A configuration emits declarations as it says. -/
theorem emitter_of_mem {configuration : Configuration} {emits : Declarations.Emitter}
    (member : .declarations emits ∈ configuration.outputStages) :
    emits = emitter configuration.declarations := by
  rcases List.mem_append.mp member with first | last
  · by_cases enabled : configuration.declarations.enabled = true
    · rw [if_pos enabled, List.mem_singleton] at first
      cases first
      rfl
    · rw [if_neg enabled] at first
      cases first
  · rcases umd : configuration.umd with _ | umd
    · rw [umd] at last
      cases last
    · rw [umd, List.mem_singleton] at last
      cases last

/-- The type-checker of a configuration is a compiler. -/
theorem exists_compiler_of_mayGive {configuration : DeclarationConfiguration}
    {checker : TypeChecker} (given : (emitter configuration).source.MayGive checker) :
    ∃ compiler : Compiler, checker = compiler.checker := by
  rcases given.cases with compiler | fixed
  · exact compiler
  · unfold emitter at fixed
    rcases tsc : configuration.tsc with _ | path
    · rw [tsc] at fixed
      cases fixed
    · rw [tsc] at fixed
      cases fixed

end Configuration

namespace CommandLine

/-! ## Reports in the log -/

/-- Whether a line of the log is a report: a warning or an error of the command line. -/
def isReport (line : LogLine) : Bool :=
  line.target = runLogTarget ∧ (line.level = .warn ∨ line.level = .error)

/-- The reports in a log. -/
def reports (log : List LogLine) : List LogLine := log.filter isReport

/-- The lines for what was reported, the warnings first. -/
def reportLines (result : Result) : List LogLine :=
  result.warnings.map (fun warning => ⟨.warn, runLogTarget, warning.display⟩) ++
    result.errors.map fun error => ⟨.error, runLogTarget, error.display⟩

/-- The reports of two logs, one after the other. -/
@[simp] theorem reports_append (log others : List LogLine) :
    reports (log ++ others) = reports log ++ reports others :=
  List.filter_append log others

/-- A line that is no report. -/
theorem reports_singleton_of_not {line : LogLine} (no : isReport line = false) :
    reports [line] = [] := by
  rw [reports, List.filter_cons_of_neg (by rw [no]; exact Bool.false_ne_true), List.filter_nil]

/-- The lines for what was reported are reports. -/
@[simp] theorem reports_reportLines (result : Result) :
    reports (reportLines result) = reportLines result := by
  rw [reports, List.filter_eq_self]
  intro line member
  rcases List.mem_append.mp member with warning | error
  · obtain ⟨message, -, rfl⟩ := List.mem_map.mp warning
    simp [isReport]
  · obtain ⟨message, -, rfl⟩ := List.mem_map.mp error
    simp [isReport]

/-- There is no line where nothing was reported. -/
theorem reportLines_eq_nil_iff {result : Result} : reportLines result = [] ↔ result = .empty := by
  obtain ⟨errors, warnings⟩ := result
  simp [reportLines, Result.empty, and_comm]

/-- The log has the same reports before and after. -/
abbrev KeepsReports : Workspace → Workspace → Prop := Keeps fun workspace => reports workspace.log

/-- A line that is no report keeps the reports. -/
theorem keepsReports_logged (workspace : Workspace) {level : Logging.Level} {target : String}
    (text : String) (no : isReport ⟨level, target, text⟩ = false) :
    KeepsReports workspace (workspace.logged level target text) := by
  change reports (workspace.log ++ [_]) = reports workspace.log
  rw [reports_append, reports_singleton_of_not no, List.append_nil]

/-- No part of the program that writes lines while stages run writes reports. -/
theorem allows_keepsReports : Workspace.Allows KeepsReports where
  files _ _ := rfl
  run _ _ _ _ := rfl
  emission _ _ := rfl
  log workspace level target text member := by
    refine keepsReports_logged workspace text ?_
    have elsewhere : target ≠ runLogTarget := by
      rintro rfl
      exact absurd member (by decide)
    simp [isReport, elsewhere]

/-- The stages of a configuration write no reports. -/
theorem keepsReports_runAll (configuration : Configuration) (context : Context) :
    Respects (InvImage KeepsReports Progress.workspace)
      (Stage.runAll context configuration.stages) := by
  -- The only type-checker that a configuration gives a stage is a compiler: it writes no reports.
  rw [configuration.stages_eq]
  refine OutputStage.respects_runAll (fun kind progress => ?_) fun kind member => ?_
  · exact allows_keepsReports.log progress.workspace _ _ _ (by decide)
  · rcases kind with emitter | globalName
    · obtain rfl := Configuration.emitter_of_mem member
      refine Declarations.Emitter.respects_run allows_keepsReports _ ?_ context
      intro checker given plan options
      obtain ⟨compiler, rfl⟩ := Configuration.exists_compiler_of_mayGive given
      exact compiler.respects_emit allows_keepsReports plan options
    · exact Umd.respects_run allows_keepsReports globalName context

/-! ## Preparing a run -/

/-- The kinds of lines that are written into the log while a run is prepared. -/
def preparingLines : List (Logging.Level × String) :=
  [(.debug, runLogTarget), (.info, runLogTarget), (.trace, Tracker.logTarget)]

section

variable {R : Workspace → Workspace → Prop} [IsPreorder Workspace R]
  (logs : ∀ workspace level target text, (level, target) ∈ preparingLines →
    R workspace (workspace.logged level target text))

/-- Lifting a check into an action changes nothing. -/
theorem respects_checked {α : Type} (verdict : Except RunFault α) :
    Respects R (checked verdict) := by
  rcases verdict with fault | value
  · exact .throw fault
  · exact .pure value

include logs

/-- Hearing that a path is loaded writes at most one line. -/
theorem respects_hear (tracker : Tracker) (tracked : TrackedFiles) (path : Path) :
    Respects R (modify fun workspace : Workspace =>
      { workspace with log := workspace.log ++ (tracker.load tracked path).log } :
        Action RunFault Unit) := by
  refine .modify fun workspace => ?_
  unfold Tracker.load
  by_cases kept : tracker.matchesPath path ∧ !tracked.contains path
  · rw [if_pos kept]
    exact logs workspace .trace Tracker.logTarget _ (by decide)
  · rw [if_neg kept]
    dsimp only
    rw [List.append_nil]
    exact refl_of R workspace

/-- Reporting entry points as loaded writes lines and does nothing else. -/
theorem respects_loadEntries (tracker : Tracker) (tracked : TrackedFiles)
    (entries : List Path) : Respects R (loadEntries tracker tracked entries) := by
  induction entries generalizing tracked with
  | nil => exact .pure tracked
  | cons entry others ih =>
    have hear : Respects R (do
        modify fun workspace : Workspace =>
          { workspace with log := workspace.log ++ (tracker.load tracked entry).log }
        loadEntries tracker (tracker.load tracked entry).tracked others) :=
      .bind (respects_hear logs tracker tracked entry) fun _ => ih _
    exact .bind .get fun workspace => .ite (.bind (.throw _) fun _ => hear) hear

/-- Preparing a run writes lines and does nothing else. -/
theorem respects_prepare (arguments : Arguments) : Respects R (prepare arguments) := by
  have line : ∀ level text, (level, runLogTarget) ∈ preparingLines →
      Respects R (Action.log level runLogTarget text : Action RunFault Unit) :=
    fun level text member workspace => logs workspace level runLogTarget text member
  refine .bind (Action.respects_mapError _ Action.respects_currentDirectory) fun directory => ?_
  refine .bind .get fun workspace => .bind (respects_checked _) fun configuration => ?_
  refine .bind (line _ _ (by decide)) fun _ => ?_
  refine .bind (respects_checked _) fun tracker => .bind .get fun later => ?_
  refine .bind (respects_loadEntries logs _ _ _) fun tracked => ?_
  exact .bind (line _ _ (by decide)) fun _ => .pure _

end

/-- Preparing a run writes no reports. -/
theorem keepsReports_prepare (arguments : Arguments) :
    Respects KeepsReports (prepare arguments) := by
  refine respects_prepare (fun workspace level target text member => ?_) arguments
  have silent : ∀ kind ∈ preparingLines, isReport ⟨kind.1, kind.2, text⟩ = false := by
    have elsewhere : Tracker.logTarget ≠ runLogTarget := by decide
    simp [preparingLines, isReport, elsewhere]
  exact keepsReports_logged workspace text (silent _ member)

/-- The stages that are prepared are those of a configuration. -/
theorem exists_configuration_of_prepare {arguments : Arguments} {workspace after : Workspace}
    {context : Context} {stages : List Stage}
    (prepared : outcome (prepare arguments) workspace = (.ok (context, stages), after)) :
    ∃ configuration : Configuration, stages = configuration.stages := by
  -- The configuration is the third step that is prepared; the stages are read off it at the end.
  obtain ⟨_, _, -, prepared⟩ := exists_of_outcome_bind_ok prepared
  obtain ⟨_, _, -, prepared⟩ := exists_of_outcome_bind_ok prepared
  obtain ⟨configuration, _, -, prepared⟩ := exists_of_outcome_bind_ok prepared
  obtain ⟨_, _, -, prepared⟩ := exists_of_outcome_bind_ok prepared
  obtain ⟨_, _, -, prepared⟩ := exists_of_outcome_bind_ok prepared
  obtain ⟨_, _, -, prepared⟩ := exists_of_outcome_bind_ok prepared
  obtain ⟨_, _, -, prepared⟩ := exists_of_outcome_bind_ok prepared
  obtain ⟨_, _, -, prepared⟩ := exists_of_outcome_bind_ok prepared
  cases prepared
  exact ⟨configuration, rfl⟩

/-! ## Running the stages -/

/-- What the stages of a run come to, where the run comes to them. -/
def stagesRun (arguments : Arguments) (workspace : Workspace) :
    Option (Except Fault Unit × Progress) :=
  match outcome (prepare arguments) workspace with
  | (.ok (context, stages), before) =>
    some (outcome (Stage.runAll context stages) ⟨before, .empty⟩)
  | (.error _, _) => none

/-- A line for each message. -/
theorem outcome_forM_log (level : Logging.Level) (messages : List Message)
    (workspace : Workspace) :
    outcome (messages.forM fun message =>
        (Action.log level runLogTarget message.display : Action RunFault Unit)) workspace =
      (.ok (), { workspace with
        log := workspace.log ++ messages.map fun message =>
          ⟨level, runLogTarget, message.display⟩ }) := by
  induction messages generalizing workspace with
  | nil => rw [List.map_nil, List.append_nil]; rfl
  | cons message others ih =>
    rw [List.forM, outcome_bind_ok (Action.outcome_log _ _ _ _), ih, List.map_cons,
      Workspace.log_logged, List.append_assoc]
    rfl

/-- Writing the result into the log writes its reports. -/
theorem outcome_logResult (result : Result) (workspace : Workspace) :
    outcome (logResult result) workspace =
      (.ok (), { workspace with log := workspace.log ++ reportLines result }) := by
  rw [logResult, outcome_bind_ok (outcome_forM_log _ _ _), outcome_forM_log, reportLines,
    List.append_assoc]

/-- Having the stages run gives what they reported, or their fault. -/
theorem outcome_runStages {context : Context} {stages : List Stage} {workspace : Workspace}
    {verdict : Except Fault Unit} {progress : Progress}
    (ran : outcome (Stage.runAll context stages) ⟨workspace, .empty⟩ = (verdict, progress)) :
    outcome (runStages context stages) workspace =
      ((verdict.map fun _ => progress.result).mapError .fault, progress.workspace) := by
  change (((outcome (Stage.runAll context stages) ⟨workspace, .empty⟩).1.map fun _ =>
      (outcome (Stage.runAll context stages) ⟨workspace, .empty⟩).2.result).mapError RunFault.fault,
    (outcome (Stage.runAll context stages) ⟨workspace, .empty⟩).2.workspace) = _
  rw [ran]

/-- A run that comes to its stages does so from a workspace without new reports, and the stages
leave one without new reports. -/
theorem exists_prepare_of_stagesRun {arguments : Arguments} {workspace : Workspace}
    {verdict : Except Fault Unit} {progress : Progress}
    (ran : stagesRun arguments workspace = some (verdict, progress)) :
    ∃ context stages before,
      outcome (prepare arguments) workspace = (.ok (context, stages), before) ∧
      outcome (Stage.runAll context stages) ⟨before, .empty⟩ = (verdict, progress) ∧
      reports progress.workspace.log = reports workspace.log := by
  unfold stagesRun at ran
  rcases prepared : outcome (prepare arguments) workspace with ⟨fault | ⟨context, stages⟩, before⟩
  · rw [prepared] at ran
    cases ran
  · rw [prepared] at ran
    have stagesRan := Option.some.inj ran
    obtain ⟨configuration, rfl⟩ := exists_configuration_of_prepare prepared
    have first := (keepsReports_prepare arguments).of_outcome prepared
    have second := (keepsReports_runAll configuration context).of_outcome stagesRan
    exact ⟨context, configuration.stages, before, rfl, stagesRan, Eq.trans second first⟩

/-- A run that does not come to its stages writes no reports. -/
theorem reports_execute_of_none {arguments : Arguments} {workspace : Workspace}
    (none : stagesRun arguments workspace = none) :
    reports (outcome (execute arguments) workspace).2.log = reports workspace.log := by
  unfold stagesRun at none
  rcases prepared : outcome (prepare arguments) workspace with ⟨fault | ⟨context, stages⟩, before⟩
  · rw [execute, outcome_bind_error prepared]
    exact (keepsReports_prepare arguments).of_outcome prepared
  · rw [prepared] at none
    cases none

/-- A run whose stages end in a fault ends in that fault, and writes no reports. -/
theorem outcome_execute_of_error {arguments : Arguments} {workspace : Workspace} {fault : Fault}
    {progress : Progress} (ran : stagesRun arguments workspace = some (.error fault, progress)) :
    outcome (execute arguments) workspace = (.error (.fault fault), progress.workspace) := by
  obtain ⟨context, stages, before, prepared, stagesRan, -⟩ := exists_prepare_of_stagesRun ran
  rw [execute, outcome_bind_ok prepared]
  dsimp only
  rw [outcome_bind_error (outcome_runStages stagesRan)]

/-- A run whose stages come to their end writes their reports. -/
theorem log_execute_of_ok {arguments : Arguments} {workspace : Workspace} {progress : Progress}
    (ran : stagesRun arguments workspace = some (.ok (), progress)) :
    (outcome (execute arguments) workspace).2.log =
      progress.workspace.log ++ reportLines progress.result := by
  obtain ⟨context, stages, before, prepared, stagesRan, -⟩ := exists_prepare_of_stagesRun ran
  rw [execute, outcome_bind_ok prepared]
  dsimp only
  rw [outcome_bind_ok (outcome_runStages stagesRan), outcome_bind_ok (outcome_logResult _ _)]
  by_cases errors : progress.result.hasErrors = true
  · rw [if_pos errors, outcome_bind_error (outcome_throw _ _)]
  · rw [if_neg errors, outcome_pure]

/-- A run whose stages come to their end with errors fails. -/
theorem outcome_execute_fst_of_hasErrors {arguments : Arguments} {workspace : Workspace}
    {progress : Progress} (ran : stagesRun arguments workspace = some (.ok (), progress))
    (errors : progress.result.hasErrors = true) :
    (outcome (execute arguments) workspace).1 =
      .error (.errorsReported progress.result.errors.length) := by
  obtain ⟨context, stages, before, prepared, stagesRan, -⟩ := exists_prepare_of_stagesRun ran
  rw [execute, outcome_bind_ok prepared]
  dsimp only
  rw [outcome_bind_ok (outcome_runStages stagesRan), outcome_bind_ok (outcome_logResult _ _),
    if_pos errors, outcome_bind_error (outcome_throw _ _)]

/-- **Reports of a run.** Whatever the arguments, the settings, the files and the programs, the
reports that a run adds to the log are those of its stages, the warnings first and each in its
order, if the stages come to their end, and none otherwise. So all reports of the stages are in the log
exactly when no stage ends in a fault or nothing was reported before, and a run whose stages end in
a fault ends in that fault. -/
theorem reports_execute (arguments : Arguments) (workspace : Workspace) :
    (reports (outcome (execute arguments) workspace).2.log =
      reports workspace.log ++
        match stagesRun arguments workspace with
        | some (.ok (), progress) => reportLines progress.result
        | some (.error _, _) => []
        | none => []) ∧
    ∀ verdict progress, stagesRun arguments workspace = some (verdict, progress) →
      (reports (outcome (execute arguments) workspace).2.log =
          reports workspace.log ++ reportLines progress.result ↔
        verdict = .ok () ∨ progress.result = .empty) ∧
      ∀ fault, verdict = .error fault →
        (outcome (execute arguments) workspace).1 = .error (.fault fault) := by
  constructor
  · rcases ran : stagesRun arguments workspace with _ | ⟨fault | _, progress⟩
    · rw [reports_execute_of_none ran, List.append_nil]
    · obtain ⟨-, -, -, -, -, same⟩ := exists_prepare_of_stagesRun ran
      rw [outcome_execute_of_error ran, List.append_nil]
      exact same
    · obtain ⟨-, -, -, -, -, same⟩ := exists_prepare_of_stagesRun ran
      rw [log_execute_of_ok ran, reports_append, reports_reportLines, same]
  · intro verdict progress ran
    obtain ⟨-, -, -, -, -, same⟩ := exists_prepare_of_stagesRun ran
    rcases verdict with fault | _
    · rw [outcome_execute_of_error ran]
      refine ⟨?_, fun other isFault => by cases isFault; rfl⟩
      dsimp only
      rw [same, List.self_eq_append_right, reportLines_eq_nil_iff]
      simp
    · rw [log_execute_of_ok ran, reports_append, reports_reportLines, same]
      exact ⟨by simp, fun fault isFault => by cases isFault⟩

/-! ## A lost warning -/

/-- A compiler that writes the declarations of `src/index.ts` and warns of something unused. -/
def warningCompiler : Program where
  executable := true
  execute _ _ := some
    { writes := [(.ofString "dist/index.d.ts", Utf8.encode "export \x7b\x7d;\n")]
      stdout := Utf8.encode "src/index.ts(1,1): warning TS6133: unused\n"
      stderr := []
      ending := .exit 0 }

/-- A package with one source, a script that is no text, and that compiler. -/
def unreadablePackage : Workspace :=
  .start
    (.ofNodes [([Utf8.encode "src"], .directory),
      ([Utf8.encode "src", Utf8.encode "index.ts"],
        .file (Utf8.encode "export const a = 1;\n") none),
      ([Utf8.encode "dist"], .directory),
      ([Utf8.encode "dist", Utf8.encode "index.js"], .file [0xff] none),
      ([Utf8.encode "node_modules"], .directory),
      ([Utf8.encode "node_modules", Utf8.encode ".bin"], .directory),
      ([Utf8.encode "node_modules", Utf8.encode ".bin", Utf8.encode "tsc"],
        .file [] (some warningCompiler))])
    [] [] none

/-- A run for the source of that package. -/
def unreadableArguments : Arguments :=
  { Arguments.empty with entries := [.ofString "src/index.ts"] }

/-- On that package the run of the stages has a warning, and ends in a fault. -/
theorem exists_stagesRun_unreadable :
    ∃ fault progress, stagesRun unreadableArguments unreadablePackage =
      some (.error fault, progress) ∧ progress.result ≠ .empty := by
  have warned : (stagesRun unreadableArguments unreadablePackage).map (fun run =>
      (run.1.isOk, run.2.result.warnings.isEmpty)) = some (false, false) := by decide +kernel
  obtain ⟨⟨verdict, progress⟩, ran, shape⟩ := Option.map_eq_some_iff.mp warned
  obtain ⟨failed, someWarning⟩ := Prod.mk.inj shape
  rcases verdict with fault | _
  · refine ⟨fault, progress, ran, fun nothing => ?_⟩
    dsimp only at someWarning
    rw [nothing] at someWarning
    cases someWarning
  · cases failed

/-- Not every report of the stages is in the log at the end: a warning of the compiler is lost when
a script cannot be linked. -/
theorem not_forall_reports_logged :
    ¬∀ arguments workspace verdict progress,
      stagesRun arguments workspace = some (verdict, progress) →
        reports (outcome (execute arguments) workspace).2.log =
          reports workspace.log ++ reportLines progress.result := by
  intro logged
  obtain ⟨fault, progress, ran, reported⟩ := exists_stagesRun_unreadable
  have whole := logged _ _ _ _ ran
  obtain ⟨-, -, -, -, -, same⟩ := exists_prepare_of_stagesRun ran
  rw [outcome_execute_of_error ran, same, List.self_eq_append_right, reportLines_eq_nil_iff]
    at whole
  exact reported whole

end CommandLine

end BundleFinish
