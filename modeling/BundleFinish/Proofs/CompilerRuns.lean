import BundleFinish.Proofs.Reports

/-! # Runs of the compiler in a build

A compiler that is started comes to an end, or is cut off when its time is over. What it printed
decides how it is answered: a run that is cut off, whose output is no text, or that fails without a
diagnostic, is a failure of the type-checker; otherwise its diagnostics are reported by their
severity, whatever the exit status. So a failing run leaves an error in the build, except when it
printed warnings and nothing else (`Declarations.Emitter.hasErrors_of_failingRun_iff`). -/

namespace BundleFinish

open Build (Context OutputStage Progress Result Work)

variable {ε : Type}

/-! ## Starting programs -/

namespace Action

/-- What is recorded and logged does not matter for a run of a program. -/
theorem outcome_execute_fst (limit : Nat) (program directory : Path)
    (arguments : List String) (workspace : Workspace) (emissions : List Emission)
    (log : List LogLine) :
    (outcome (execute limit program directory arguments) { workspace with emissions, log }).1 =
      (outcome (execute limit program directory arguments) workspace).1 := by
  have started : ({ workspace with emissions, log } : Workspace).startable program directory
      arguments = workspace.startable program directory arguments := rfl
  rw [execute, outcome_bind_ok (outcome_get _), outcome_bind_ok (outcome_get _), started]
  rcases workspace.startable program directory arguments with cause | ⟨place, found, below⟩
  · rfl
  · have content : ({ workspace with emissions, log } : Workspace).contentFrom below =
        workspace.contentFrom below := rfl
    dsimp only
    rw [content]
    rcases if limit = 0 then none
      else found.execute ⟨below.path, arguments⟩ (workspace.contentFrom below) with
      _ | execution <;> rfl

/-- A program that can be started and ends in time leaves the effects of its run. -/
theorem outcome_execute_of_startable {limit : Nat} {program directory : Path}
    {arguments : List String} {workspace : Workspace} {place : Option Location} {found : Program}
    {below : Location} {execution : Execution}
    (started : workspace.startable program directory arguments = .ok (place, found, below))
    (inTime : limit ≠ 0)
    (ran : found.execute ⟨below.path, arguments⟩ (workspace.contentFrom below) = some execution) :
    outcome (execute limit program directory arguments) workspace =
      (.ok (some execution),
        workspace.afterRun ⟨place, ⟨below.path, arguments⟩⟩ below execution) := by
  rw [execute, outcome_bind_ok (outcome_get _), started]
  dsimp only
  rw [if_neg inTime, ran]
  rfl

end Action

namespace Declarations

/-! ## Diagnostics of a run -/

/-- A source changes nothing about the severity. -/
@[simp] theorem isError_attachSource (workspace : Workspace) (directory : Path)
    (diagnostic : Diagnostic) :
    (diagnostic.attachSource workspace directory).isError = diagnostic.isError := by
  unfold Diagnostic.attachSource
  rcases diagnostic.file with _ | file
  · rfl
  · dsimp only
    rcases workspace.files.readText workspace.directory (directory.joinText file) with
      cause | text <;> rfl

/-- Sources change nothing about which severities there are. -/
theorem exists_isError_attachSources_iff {workspace : Workspace} {directory : Path}
    {diagnostics : List Diagnostic} :
    (∃ diagnostic ∈ Diagnostic.attachSources workspace directory diagnostics,
      diagnostic.isError = true) ↔ ∃ diagnostic ∈ diagnostics, diagnostic.isError = true := by
  simp [Diagnostic.attachSources]

/-- A run that came to its end and printed diagnostics, all of them warnings. -/
def OnlyWarns (run : Option Execution) : Prop :=
  ∃ execution text, run = some execution ∧ Utf8.decode execution.stdout = .ok text ∧
    Diagnostic.parse text ≠ [] ∧ ∀ diagnostic ∈ Diagnostic.parse text, diagnostic.isError = false

/-- A run that was cut off, or that came to its end without success. -/
def Fails (run : Option Execution) : Prop :=
  ∀ execution, run = some execution → execution.ending.isSuccess = false

/-! ## Replies of a compiler -/

namespace Compiler

/-- A run of a compiler for sources: what it did, or none when it was cut off. -/
def start (compiler : Compiler) (files : List Path) (options : Options) :
    Action IoError (Option Execution) :=
  Action.execute compiler.timeoutSecs compiler.program compiler.projectRoot
    (options.arguments files)

/-- How a compiler answers behind a run that leaves a workspace. -/
def reply (compiler : Compiler) (files : List Path) (options : Options) (after : Workspace) :
    Option Execution → Except CheckerError Emitted
  | none => .error (.timedOut compiler.timeoutSecs)
  | some execution =>
    (diagnosticsOf execution).map fun diagnostics =>
      { diagnostics := Diagnostic.attachSources after compiler.projectRoot diagnostics
        files := files.map options.declarationPath }

/-- What is recorded and logged before a compiler is started does not matter for its run. -/
theorem exists_outcome_start {compiler : Compiler} {files : List Path} {options : Options}
    {workspace ran : Workspace} {run : Option Execution}
    (started : outcome (compiler.start files options) workspace = (.ok run, ran))
    (emissions : List Emission) (log : List LogLine) :
    ∃ after, outcome (Action.mapError CheckerError.notStarted (compiler.start files options))
      { workspace with emissions, log } = (.ok run, after) := by
  have value : (outcome (compiler.start files options) { workspace with emissions, log }).1 =
      .ok run :=
    (Action.outcome_execute_fst _ _ _ _ workspace emissions log).trans (congrArg Prod.fst started)
  refine ⟨(outcome (compiler.start files options) { workspace with emissions, log }).2, ?_⟩
  rw [Action.outcome_mapError, value]
  rfl

/-- A compiler that is started answers as its run says. -/
theorem exists_outcome_emit {compiler : Compiler} {files : List Path} {options : Options}
    {workspace ran : Workspace} {run : Option Execution}
    (started : outcome (compiler.start files options) workspace = (.ok run, ran))
    (emissions : List Emission) (log : List LogLine) :
    ∃ after, outcome (compiler.emit files options) { workspace with emissions, log } =
      (compiler.reply files options after run, after) := by
  -- The compiler logs its command line before it starts, so it does not run from the same workspace.
  let words := " ".intercalate (options.arguments files)
  obtain ⟨after, again⟩ := exists_outcome_start started emissions
    (log ++ [⟨.debug, logTarget, s!"[fob-dts] {compiler.program.display} {words}"⟩])
  refine ⟨after, (outcome_bind_ok (Action.outcome_log _ _ _ _)).trans
    ((outcome_bind_ok again).trans ?_)⟩
  rcases run with _ | execution
  · rfl
  · dsimp only [reply]
    rcases diagnosticsOf execution with cause | diagnostics <;> rfl

/-- A run without success has the diagnostics that it printed, where there is at least one. -/
theorem diagnosticsOf_eq_ok_iff {execution : Execution} {diagnostics : List Diagnostic}
    (failing : execution.ending.isSuccess = false) :
    diagnosticsOf execution = .ok diagnostics ↔
      ∃ text, Utf8.decode execution.stdout = .ok text ∧ Diagnostic.parse text = diagnostics ∧
        diagnostics ≠ [] := by
  unfold diagnosticsOf
  rcases Utf8.decode execution.stdout with cause | text
  · simp [Except.mapError, bind, Except.bind]
  · by_cases none : Diagnostic.parse text = []
    · simp [Except.mapError, failing, none, bind, Except.bind, throw, throwThe,
        MonadExceptOf.throw]
    · have carried : Diagnostic.parse text = diagnostics → diagnostics ≠ [] := (· ▸ none)
      simpa [Except.mapError, none, bind, Except.bind, pure, Except.pure] using carried

/-- A run that fails is answered by a failure, or by the diagnostics that it printed. -/
theorem reply_of_fails (compiler : Compiler) (files : List Path) (options : Options)
    (after : Workspace) {run : Option Execution} (fails : Fails run) :
    (∃ cause, compiler.reply files options after run = .error cause) ∧ ¬OnlyWarns run ∨
      ∃ execution text emitted, run = some execution ∧ Utf8.decode execution.stdout = .ok text ∧
        Diagnostic.parse text ≠ [] ∧
        compiler.reply files options after run = .ok emitted ∧
        emitted.diagnostics =
          Diagnostic.attachSources after compiler.projectRoot (Diagnostic.parse text) := by
  rcases run with _ | execution
  · exact .inl ⟨⟨_, rfl⟩, by rintro ⟨execution, text, ended, -⟩; cases ended⟩
  · have failing := fails execution rfl
    rcases found : diagnosticsOf execution with cause | diagnostics
    · refine .inl ⟨⟨cause, by rw [reply, found]; rfl⟩, ?_⟩
      rintro ⟨_, text, ended, decoded, some, -⟩
      cases ended
      have ok := (diagnosticsOf_eq_ok_iff failing).mpr ⟨text, decoded, rfl, some⟩
      rw [found] at ok
      cases ok
    · obtain ⟨text, decoded, rfl, some⟩ := (diagnosticsOf_eq_ok_iff failing).mp found
      exact .inr ⟨execution, text, _, rfl, decoded, some, by rw [reply, found]; rfl, rfl⟩

end Compiler

/-- The nearest installed compiler is the one that is found. -/
theorem CheckerSource.outcome_load_of_nearest {projectRoot path : Path} {workspace : Workspace}
    (nearest : Compiler.nearest? workspace projectRoot = some path) (timeoutSecs : Nat) :
    outcome (load .detect projectRoot timeoutSecs : Action ε _) workspace =
      (.ok (some (Compiler.checker ⟨path, projectRoot, timeoutSecs⟩)),
        workspace.logged .debug logTarget s!"[fob-dts] using tsc at {path.display}") := by
  have located : outcome (Compiler.locate projectRoot : Action ε _) workspace =
      (.ok (some path), workspace) := by
    rw [Compiler.locate, outcome_bind_ok (outcome_get _), nearest]
    rfl
  exact (outcome_bind_ok located).trans rfl

/-! ## Runs in the stage -/

namespace Emitter

variable {emitter : Emitter} {context : Context} {progress : Progress} {before : Workspace}
  {run : Option Execution}

/-- In a context and from a workspace, an emitter finds a compiler and starts it for a plan that is
not empty. -/
def Starts (emitter : Emitter) (context : Context) (before : Workspace)
    (run : Option Execution) : Prop :=
  let directory := before.directoryPath
  let plan := context.emissionPlan directory
  plan ≠ [] ∧ ∃ (compiler : Compiler) (found ran : Workspace),
    outcome (emitter.source.load (projectRoot context directory) emitter.timeoutSecs :
      Action Fault _) before = (.ok (some compiler.checker), found) ∧
    outcome (compiler.start plan (emitter.options context directory)) found = (.ok run, ran)

/-- A type-checker that is called answers as it does behind the record of the call. -/
theorem outcome_callChecker (checker : TypeChecker) (plan : List Path) (options : Options)
    (workspace : Workspace) :
    let called : Workspace :=
      { workspace with emissions := workspace.emissions ++ [⟨checker.name, plan, options⟩] }
    outcome (callChecker checker plan options) workspace =
      (.ok (outcome (checker.emit plan options) called).1,
        (outcome (checker.emit plan options).confined called).2) := rfl

/-- A compiler that is started is called, and answers as its run says. -/
theorem Starts.exists_calls (starts : emitter.Starts context before run) :
    ∃ (compiler : Compiler) (ran after : Workspace),
      emitter.Calls context before
        (compiler.reply (context.emissionPlan before.directoryPath)
          (emitter.options context before.directoryPath) ran run) after := by
  obtain ⟨planned, compiler, found, ran, loaded, started⟩ := starts
  let plan := context.emissionPlan before.directoryPath
  obtain ⟨after, emitted⟩ := Compiler.exists_outcome_emit started
    (found.emissions ++
      [⟨compiler.checker.name, plan, emitter.options context before.directoryPath⟩])
    (found.log ++ [⟨.debug, logTarget,
      s!"[fob-dts] emitting {plan.length} declaration(s) with {compiler.checker.name}"⟩])
  -- What the call leaves is confined, but the answer is that of the compiler.
  have called := outcome_callChecker compiler.checker plan
    (emitter.options context before.directoryPath) (found.logged .debug logTarget
      s!"[fob-dts] emitting {plan.length} declaration(s) with {compiler.checker.name}")
  have answered := congrArg Prod.fst emitted
  exact ⟨compiler, after, _, planned, compiler.checker, found, loaded,
    called.trans (congrArg (fun reply => (Except.ok reply, _)) answered)⟩

/-- What a build reports behind a failure of a type-checker. -/
theorem result_answer_error (context : Context) (directory : Path) (cause : CheckerError)
    (progress : Progress) :
    (outcome (answer context directory (.error cause)) progress).2.result =
      progress.result.pushError (faultMessage cause) := rfl

/-- What a build reports behind a type-checker that did its work to the end, also where the linking
fails. -/
theorem result_answer_ok (context : Context) (directory : Path) (emitted : Emitted)
    (progress : Progress) :
    (outcome (answer context directory (.ok emitted)) progress).2.result =
      (reported emitted.diagnostics progress).result := by
  rw [answer, outcome_bind_ok (outcome_reportDiagnostics _ _), outcome_bind,
    Work.outcome_onWorkspace]
  rcases outcome (link (context.options.resolvedOutDir directory)
    (context.emissionPlan directory)) (reported emitted.diagnostics progress).workspace with
      ⟨fault | linked, after⟩ <;> rfl

/-- A build has errors behind the report of diagnostics when it had some or one of them is one. -/
theorem hasErrors_reported_iff {diagnostics : List Diagnostic} :
    (reported diagnostics progress).result.hasErrors = true ↔
      progress.result.hasErrors = true ∨ ∃ diagnostic ∈ diagnostics, diagnostic.isError = true := by
  simp only [Result.hasErrors, reported, Bool.not_eq_true', List.isEmpty_eq_false_iff, ne_eq,
    List.append_eq_nil_iff, ite_eq_left_iff, List.cons_ne_nil, imp_false, not_not,
    List.filter_eq_nil_iff, not_and_or, not_forall, exists_prop]

/-- Warnings make one message. -/
theorem result_reported_of_warnings {diagnostics : List Diagnostic} (some : diagnostics ≠ [])
    (warnings : ∀ diagnostic ∈ diagnostics, diagnostic.isError = false) :
    (reported diagnostics progress).result =
      progress.result.pushWarning (diagnosticsMessage diagnostics) := by
  have noErrors : diagnostics.filter Diagnostic.isError = [] := by
    simpa [List.filter_eq_nil_iff] using warnings
  have all : diagnostics.filter (!·.isError) = diagnostics := by
    simpa [List.filter_eq_self] using warnings
  rw [reported, noErrors, all, if_neg some]
  simp [Result.pushWarning]

/-- Behind a failing run a build has an error, or the run printed warnings and nothing else, and
they are reported as one warning. -/
theorem result_of_failingRun (clean : progress.result.hasErrors = false)
    (starts : emitter.Starts context progress.workspace run) (fails : Fails run) :
    let final := (outcome (emitter.run context) progress).2
    ¬OnlyWarns run ∧ final.result.hasErrors = true ∨
      OnlyWarns run ∧ ∃ execution text seen directory, run = some execution ∧
        Utf8.decode execution.stdout = .ok text ∧
        final.result = progress.result.pushWarning (diagnosticsMessage
          (Diagnostic.attachSources seen directory (Diagnostic.parse text))) := by
  intro final
  obtain ⟨compiler, ran, after, calls⟩ := starts.exists_calls
  have ended : final = (outcome (answer context progress.workspace.directoryPath _)
    ⟨after, progress.result⟩).2 := congrArg Prod.snd (outcome_run_of_calls clean calls)
  rcases compiler.reply_of_fails (context.emissionPlan progress.workspace.directoryPath)
    (emitter.options context progress.workspace.directoryPath) ran fails with
    ⟨⟨cause, replied⟩, notOnly⟩ | ⟨execution, text, emitted, rfl, decoded, some, replied, carried⟩
  · left
    rw [ended, replied, result_answer_error, Result.hasErrors_pushError]
    exact ⟨notOnly, rfl⟩
  · -- The sources that are attached change no severity, so what was printed decides.
    rw [ended, replied, result_answer_ok, carried]
    by_cases errors : ∃ diagnostic ∈ Diagnostic.parse text, diagnostic.isError = true
    · left
      refine ⟨?_, hasErrors_reported_iff.mpr (.inr (exists_isError_attachSources_iff.mpr errors))⟩
      rintro ⟨_, other, ended, decoded', -, warnings⟩
      cases ended
      cases decoded.symm.trans decoded'
      obtain ⟨diagnostic, member, isError⟩ := errors
      exact absurd isError (by simp [warnings diagnostic member])
    · right
      have warnings : ∀ diagnostic ∈ Diagnostic.parse text, diagnostic.isError = false := by
        simpa using errors
      refine ⟨⟨execution, text, rfl, decoded, some, warnings⟩, execution, text, ran,
        compiler.projectRoot, rfl, decoded, result_reported_of_warnings ?_ ?_⟩
      · simpa [Diagnostic.attachSources] using some
      · simpa [Diagnostic.attachSources] using warnings

/-- A command line whose first stage leaves an error fails. -/
theorem exists_execute_error {arguments : CommandLine.Arguments} {workspace : Workspace}
    {kinds : List OutputStage}
    (prepared : outcome (CommandLine.prepare arguments) workspace =
      (.ok (context, (OutputStage.declarations emitter :: kinds).map OutputStage.stage), before))
    (errors : (outcome (emitter.run context)
      (emitter.stage.announced ⟨before, .empty⟩)).2.result.hasErrors = true) :
    ∃ fault, (outcome (CommandLine.execute arguments) workspace).1 = .error fault := by
  have ran : CommandLine.stagesRun arguments workspace =
      some (outcome (OutputStage.runAll context (.declarations emitter :: kinds))
        ⟨before, .empty⟩) := by
    rw [CommandLine.stagesRun, prepared]
    rfl
  rw [OutputStage.outcome_runAll_cons] at ran
  rcases first : outcome (emitter.run context) (emitter.stage.announced ⟨before, .empty⟩) with
    ⟨fault | _, final⟩
  · have failed : CommandLine.stagesRun arguments workspace = some (.error fault, final) :=
      ran.trans (congrArg some (outcome_bind_error first))
    exact ⟨_, congrArg Prod.fst (CommandLine.outcome_execute_of_error failed)⟩
  · rw [first] at errors
    obtain ⟨lines, rest⟩ := OutputStage.outcome_runAll_of_hasErrors context kinds errors
    have done : CommandLine.stagesRun arguments workspace = some (.ok (), final.withLines lines) :=
      ran.trans (congrArg some ((outcome_bind_ok first).trans rest))
    exact ⟨_, CommandLine.outcome_execute_fst_of_hasErrors done errors⟩

/-- **A failing compiler in a build.** Whatever the compiler prints and writes: where an emitter
starts it for a plan that is not empty, in a build without errors, and the run is cut off, is ended
by a signal or exits with a code other than zero, the build has an error behind it exactly when the
run did not print warnings and nothing else. Such warnings are reported as one warning. With the
error, stages that follow write lines into the log and do nothing else, and a command line whose
first stage this is fails. -/
theorem hasErrors_of_failingRun_iff (clean : progress.result.hasErrors = false)
    (starts : emitter.Starts context progress.workspace run) (fails : Fails run) :
    let final := (outcome (emitter.run context) progress).2
    (final.result.hasErrors = true ↔ ¬OnlyWarns run) ∧
    (OnlyWarns run → ∃ execution text seen directory, run = some execution ∧
      Utf8.decode execution.stdout = .ok text ∧
      final.result = progress.result.pushWarning
        (diagnosticsMessage (Diagnostic.attachSources seen directory (Diagnostic.parse text)))) ∧
    (¬OnlyWarns run →
      (∀ kinds, ∃ lines,
        outcome (OutputStage.runAll context kinds) final = (.ok (), final.withLines lines)) ∧
      ∀ arguments workspace before kinds,
        outcome (CommandLine.prepare arguments) workspace =
          (.ok (context, (OutputStage.declarations emitter :: kinds).map OutputStage.stage),
            before) →
        progress = emitter.stage.announced ⟨before, .empty⟩ →
        ∃ fault, (outcome (CommandLine.execute arguments) workspace).1 = .error fault) := by
  rcases result_of_failingRun clean starts fails with
    ⟨notOnly, errors⟩ | ⟨only, execution, text, seen, directory, ended, decoded, reports⟩
  · refine ⟨iff_of_true errors notOnly, fun only => absurd only notOnly, fun _ => ⟨?_, ?_⟩⟩
    · exact fun kinds => OutputStage.outcome_runAll_of_hasErrors context kinds errors
    · rintro arguments workspace before kinds prepared rfl
      exact exists_execute_error prepared errors
  · refine ⟨iff_of_false ?_ (not_not_intro only), fun _ => ?_, fun notOnly => absurd only notOnly⟩
    · rw [reports]
      simpa [Result.hasErrors] using clean
    · exact ⟨execution, text, seen, directory, ended, decoded, reports⟩

/-! ## A package with a failing compiler -/

/-- A compiler that prints a text and ends in some way. -/
def printingCompiler (text : String) (ending : Ending) : Program where
  executable := true
  execute _ _ := some { writes := [], stdout := Utf8.encode text, stderr := [], ending }

/-- A build of a package with one source and a compiler that is installed there. -/
def packageWith (compiler : Program) : Progress where
  workspace :=
    .start
      (.ofNodes [([Utf8.encode "src"], .directory),
        ([Utf8.encode "src", Utf8.encode "a.ts"],
          .file (Utf8.encode "export const a = 1;\n") none),
        ([Utf8.encode "node_modules"], .directory),
        ([Utf8.encode "node_modules", Utf8.encode ".bin"], .directory),
        ([Utf8.encode "node_modules", Utf8.encode ".bin", Utf8.encode "tsc"],
          .file [] (some compiler))])
      [] [] none
  result := .empty

/-- What the stages of that build work on. -/
def packageContext : Context where
  options :=
    { Build.Options.default with cwd := .root, entryPoints := [.ofString "src/a.ts"] }
  tracked := Build.TrackedFiles.empty.insert (.ofString "/src/a.ts")

/-- The compiler of that package is found and started. -/
theorem starts_packageWith (text : String) (ending : Ending) :
    (Configuration.emitter .default).Starts packageContext
      (packageWith (printingCompiler text ending)).workspace
      (some ⟨[], Utf8.encode text, [], ending⟩) := by
  have planned : packageContext.emissionPlan .root ≠ [] := by decide +kernel
  have nearest : Compiler.nearest? (packageWith (printingCompiler text ending)).workspace .root =
      some (Compiler.installedIn .root) := rfl
  have startable : ∀ log : List LogLine,
      ({ (packageWith (printingCompiler text ending)).workspace with log } : Workspace).startable
        (Compiler.installedIn .root) .root
        (((Configuration.emitter .default).options packageContext .root).arguments
          (packageContext.emissionPlan .root)) =
      .ok (some [Utf8.encode "node_modules", Utf8.encode ".bin", Utf8.encode "tsc"],
        printingCompiler text ending, []) := fun _ => rfl
  exact ⟨planned, ⟨Compiler.installedIn .root, .root, 120⟩, _, _,
    CheckerSource.outcome_load_of_nearest nearest 120,
    Action.outcome_execute_of_startable (startable _) (by decide) rfl⟩

/-- A compiler that a signal ends leaves an error. -/
theorem hasErrors_of_failingRun_sample :
    (outcome ((Configuration.emitter .default).run packageContext)
      (packageWith (printingCompiler "" (.signal 9)))).2.result.hasErrors = true := by
  have fails : Fails (some ⟨[], Utf8.encode "", [], .signal 9⟩) := by
    rintro execution ⟨⟩
    rfl
  have silent : ¬OnlyWarns (some ⟨[], Utf8.encode "", [], .signal 9⟩) := by
    rintro ⟨_, text, ⟨⟩, decoded, some, -⟩
    cases decoded
    exact some rfl
  exact (hasErrors_of_failingRun_iff rfl (starts_packageWith "" (.signal 9)) fails).1.mpr silent

/-- Not every failing run leaves an error: one that prints a warning and exits with code one does
not. -/
theorem not_forall_hasErrors_of_failingRun :
    ¬∀ (emitter : Emitter) (context : Context) (progress : Progress) (run : Option Execution),
      progress.result.hasErrors = false → emitter.Starts context progress.workspace run →
        Fails run → (outcome (emitter.run context) progress).2.result.hasErrors = true := by
  intro always
  have fails : Fails (some ⟨[], Utf8.encode "src/a.ts(1,1): warning TS6133: unused\n", [],
      .exit 1⟩) := by
    rintro execution ⟨⟩
    rfl
  have errors := always _ _ _ _ rfl (starts_packageWith _ (.exit 1)) fails
  exact absurd errors (by decide +kernel)

end Emitter

end Declarations

end BundleFinish
