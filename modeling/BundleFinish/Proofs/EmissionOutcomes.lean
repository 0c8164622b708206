import BundleFinish.Proofs.CompilerRuns
import BundleFinish.Proofs.RenderedDiagnostics

/-! # How an emission ends

In a build without errors the emission of declarations ends in exactly one of three ways. Without a
type-checker or without a plan nothing happens; a type-checker that fails is reported, and no script
is touched; and behind one that does its work to the end, its diagnostics are reported by their
severity and the plan is linked, whatever was reported. Only the linking can fail
(`Declarations.Emitter.exactly_one_outcome`). -/

namespace BundleFinish

open Build (Context Message Progress Result Work)

variable {ε : Type}

/-! ## What the search for a type-checker leaves -/

namespace Declarations.Compiler

variable {workspace : Workspace} {place : Option Location} {execution : Execution}

/-- A process is run for the program that looks up others: its name leads to a program, at a place of
the file tree or elsewhere, and the run ends. -/
def LooksUp (workspace : Workspace) (place : Option Location) (execution : Execution) : Prop :=
  ∃ program,
    workspace.programAt workspace.directory (.ofString Workspace.finderName) =
      .ok (place, program) ∧
    program.execute ⟨workspace.directoryPath, [programName]⟩
      (workspace.contentFrom workspace.directory) = some execution

/-- What is started to look up the compiler is what the name of the program for that leads to. -/
theorem startableHere_finderName (workspace : Workspace) :
    workspace.startableHere (.ofString Workspace.finderName) [programName] =
      workspace.programAt workspace.directory (.ofString Workspace.finderName) := by
  rw [Workspace.startableHere, if_neg (by decide)]

/-- The program that looks up others is run once, and a run that succeeds gives the path in what it
printed. -/
theorem outcome_lookUp_of_looksUp (looksUp : LooksUp workspace place execution) :
    outcome (lookUp : Action ε (Option Path)) workspace =
      (.ok (if execution.ending.isSuccess then answeredPath? execution.stdout else none),
        workspace.afterRun ⟨place, ⟨workspace.directoryPath, [programName]⟩⟩ workspace.directory
          execution) := by
  obtain ⟨program, named, ran⟩ := looksUp
  rw [lookUp, outcome_bind, Action.outcome_attempt, Action.executeHere,
    outcome_bind_ok (outcome_get _), startableHere_finderName, named]
  dsimp only
  rw [← Workspace.directoryPath, ran]
  rfl

/-- Where no run of the program that looks up others ends, nothing is found and nothing changes. -/
theorem outcome_lookUp_of_not_looksUp
    (never : ∀ place execution, ¬LooksUp workspace place execution) :
    outcome (lookUp : Action ε (Option Path)) workspace = (.ok none, workspace) := by
  rw [lookUp, outcome_bind, Action.outcome_attempt, Action.executeHere,
    outcome_bind_ok (outcome_get _), startableHere_finderName]
  rcases named : workspace.programAt workspace.directory (.ofString Workspace.finderName) with
    cause | ⟨place, program⟩
  · rfl
  · have silent : program.execute ⟨workspace.directoryPath, [programName]⟩
        (workspace.contentFrom workspace.directory) = none :=
      Option.eq_none_iff_forall_ne_some.mpr fun execution ran =>
        never place execution ⟨program, named, ran⟩
    dsimp only
    rw [← Workspace.directoryPath, silent]
    rfl

end Declarations.Compiler

namespace Workspace

open Declarations (Compiler)

/-- No type-checker was called, and files and runs are as they were, or as one run of the program
that looks up the compiler leaves them. -/
structure Probed (before after : Workspace) : Prop where
  emissions : after.emissions = before.emissions
  effects :
    (after.files = before.files ∧ after.runs = before.runs) ∨
      ∃ place execution, Compiler.LooksUp before place execution ∧
        let probed := before.afterRun
          ⟨place, ⟨before.directoryPath, [Compiler.programName]⟩⟩ before.directory execution
        after.files = probed.files ∧ after.runs = probed.runs

/-- Nothing was done. -/
theorem Probed.refl (workspace : Workspace) : Probed workspace workspace :=
  ⟨rfl, .inl ⟨rfl, rfl⟩⟩

/-- A log line is no effect. -/
theorem Probed.logged {workspace after : Workspace} (probed : Probed workspace after)
    (level : Logging.Level) (target text : String) :
    Probed workspace (after.logged level target text) :=
  ⟨probed.emissions, probed.effects⟩

end Workspace

namespace Declarations

open Workspace (Probed)

/-- Asking the program that looks up others runs it once at most. -/
theorem Compiler.probed_lookUp (workspace : Workspace) :
    Probed workspace (outcome (lookUp : Action ε (Option Path)) workspace).2 := by
  by_cases asked : ∃ place execution, LooksUp workspace place execution
  · obtain ⟨place, execution, looksUp⟩ := asked
    rw [outcome_lookUp_of_looksUp looksUp]
    exact ⟨rfl, .inr ⟨place, execution, looksUp, rfl, rfl⟩⟩
  · rw [outcome_lookUp_of_not_looksUp fun place execution looksUp =>
      asked ⟨place, execution, looksUp⟩]
    exact .refl workspace

/-- Looking for a compiler runs the program that looks up others at most. -/
theorem Compiler.probed_locate (projectRoot : Path) (workspace : Workspace) :
    Probed workspace (outcome (locate projectRoot : Action ε (Option Path)) workspace).2 := by
  rw [locate, outcome_bind_ok (outcome_get workspace)]
  rcases nearest? workspace projectRoot with _ | path
  · exact probed_lookUp workspace
  · exact .refl workspace

/-- Looking for a type-checker runs the program that looks up others at most. -/
theorem CheckerSource.probed_load (source : CheckerSource) (projectRoot : Path)
    (timeoutSecs : Nat) (workspace : Workspace) :
    Probed workspace
      (outcome (source.load projectRoot timeoutSecs : Action ε (Option TypeChecker))
        workspace).2 := by
  rcases source with _ | path | checker | _
  · have located := Compiler.probed_locate (ε := ε) projectRoot workspace
    rw [load, outcome_bind]
    revert located
    rcases outcome (Compiler.locate projectRoot : Action ε (Option Path)) workspace with
      ⟨cause | _ | path, after⟩ <;> intro located
    · exact located
    · exact located.logged _ _ _
    · exact located.logged _ _ _
  · rw [load, outcome_bind_ok (outcome_get workspace)]
    split_ifs
    · exact .refl workspace
    · exact (Probed.refl workspace).logged _ _ _
  · exact .refl workspace
  · exact .refl workspace

/-! ## Linking calls no type-checker -/

/-- Linking a source calls no type-checker. -/
theorem emissions_linkSource (directory source : Path) (workspace : Workspace) :
    (outcome (linkSource directory source) workspace).2.emissions = workspace.emissions := by
  unfold linkSource
  rcases ArtifactPair.ofSource? directory source with _ | pair
  · rfl
  · dsimp only
    rw [outcome_bind_ok (outcome_get workspace)]
    split_ifs
    · rw [outcome_bind, outcome_linkPair]
      rcases workspace.files.apply workspace.directory pair.edit with cause | files <;> rfl
    · rfl

/-- Linking a plan calls no type-checker. -/
theorem emissions_link (directory : Path) (plan : List Path) (workspace : Workspace) :
    (outcome (link directory plan) workspace).2.emissions = workspace.emissions := by
  induction plan generalizing workspace with
  | nil => rfl
  | cons source plan ih =>
    have first := emissions_linkSource directory source workspace
    rw [link, outcome_bind]
    revert first
    rcases outcome (linkSource directory source) workspace with ⟨fault | script, between⟩ <;>
      intro first
    · exact first
    · have others := ih between
      dsimp only
      rw [outcome_bind]
      revert others
      rcases outcome (link directory plan) between with ⟨fault | scripts, last⟩ <;> intro others
      · exact others.trans first
      · exact others.trans first

namespace Emitter

variable {emitter : Emitter} {context : Context}

/-! ## The call of a type-checker -/

/-- There is no type-checker, or nothing to call it for. -/
def Unavailable (emitter : Emitter) (context : Context) (before : Workspace) : Prop :=
  context.emissionPlan before.directoryPath = [] ∨
    ∃ after, outcome (emitter.source.load (projectRoot context before.directoryPath)
      emitter.timeoutSecs : Action Fault _) before = (.ok none, after)

/-- The call of a type-checker by the stage: of the one that its source gives, for a plan that is not
empty. -/
structure Call (emitter : Emitter) (context : Context) (before : Workspace) where
  checker : TypeChecker
  /-- What the search for the type-checker leaves. -/
  found : Workspace
  loaded : outcome (emitter.source.load (projectRoot context before.directoryPath)
    emitter.timeoutSecs : Action Fault _) before = (.ok (some checker), found)
  planned : context.emissionPlan before.directoryPath ≠ []

namespace Call

variable {before : Workspace} (call : Call emitter context before)

/-- The record of the call. -/
def emission : Emission where
  checker := call.checker.name
  files := context.emissionPlan before.directoryPath
  options := emitter.options context before.directoryPath

/-- The workspace that the type-checker finds: its call is announced and recorded. -/
def recorded : Workspace :=
  { call.found with
    emissions := call.found.emissions ++ [call.emission]
    log := call.found.log ++ [⟨.debug, logTarget,
      s!"[fob-dts] emitting {call.emission.files.length} declaration(s) with {call.checker.name}"⟩] }

/-- How the type-checker answers. -/
def reply : Except CheckerError Emitted :=
  (outcome (call.checker.emit call.emission.files call.emission.options) call.recorded).1

/-- What the type-checker leaves. -/
def after : Workspace :=
  (outcome (call.checker.emit call.emission.files call.emission.options).confined call.recorded).2

/-- The type-checker is called. -/
theorem calls : emitter.Calls context before call.reply call.after :=
  ⟨call.planned, call.checker, call.found, call.loaded, rfl⟩

/-- The call is recorded behind those that were there. -/
theorem emissions_recorded :
    call.recorded.emissions = before.emissions ++ [call.emission] := by
  have probed := emitter.source.probed_load (ε := Fault)
    (projectRoot context before.directoryPath) emitter.timeoutSecs before
  rw [call.loaded] at probed
  exact congrArg (· ++ [call.emission]) probed.emissions

/-- The type-checker is that of one search only. -/
instance : Subsingleton (Call emitter context before) where
  allEq := by
    rintro ⟨checker, found, loaded, planned⟩ ⟨checker', found', loaded', planned'⟩
    cases loaded.symm.trans loaded'
    rfl

/-- A type-checker is called unless there is none, or nothing to call it for. -/
theorem nonempty_iff : Nonempty (Call emitter context before) ↔
    ¬Unavailable emitter context before := by
  constructor
  · rintro ⟨checker, found, loaded, planned⟩ (empty | ⟨after, none⟩)
    · exact planned empty
    · cases loaded.symm.trans none
  · intro available
    have loads : Succeeds (emitter.source.load (projectRoot context before.directoryPath)
      emitter.timeoutSecs : Action Fault _) := emitter.source.succeeds_load _ _
    obtain ⟨_ | checker, after, loaded⟩ := loads before
    · exact absurd (.inr ⟨after, loaded⟩) available
    · exact ⟨checker, after, loaded, fun empty => available (.inl empty)⟩

end Call

/-- A compiler that an emitter starts is called, and answers as its run says. -/
theorem Starts.exists_call {before : Workspace} {run : Option Execution}
    (starts : emitter.Starts context before run) :
    ∃ (call : Call emitter context before) (compiler : Compiler) (after : Workspace),
      call.reply = compiler.reply call.emission.files call.emission.options after run := by
  obtain ⟨planned, compiler, found, ran, loaded, started⟩ := starts
  let call : Call emitter context before := ⟨compiler.checker, found, loaded, planned⟩
  obtain ⟨after, answered⟩ := Compiler.exists_outcome_emit started call.recorded.emissions
    call.recorded.log
  exact ⟨call, compiler, after, congrArg Prod.fst answered⟩

/-! ## The three outcomes -/

section

variable (emitter : Emitter) (context : Context) (start : Progress)

/-- Nothing happens: there is no type-checker, or nothing to call it for. Only the search for one may
have run a program. -/
def StaysIdle : Prop :=
  Unavailable emitter context start.workspace ∧
    ∃ after, outcome (emitter.run context) start = (.ok (), ⟨after, start.result⟩) ∧
      Probed start.workspace after

/-- The failure of the type-checker is reported as one error. The files are those that the
type-checker left. -/
def ReportsFault : Prop :=
  ∃ (call : Call emitter context start.workspace) (cause : CheckerError) (after : Workspace),
    call.reply = .error cause ∧ after.files = call.after.files ∧
      outcome (emitter.run context) start =
        (.ok (), ⟨after, start.result.pushError
          { id := "dts-fault", stage := "fob-dts"
            text := s!"Declaration emission failed: {cause.message}", location := none }⟩)

/-- Diagnostics of one severity, if there are any, make one more message. Its text is the renderings
of exactly these diagnostics, each as a report of its own, in order. -/
def Reports (diagnostics : List Diagnostic) (isReported : Diagnostic → Bool)
    (before after : List Message) : Prop :=
  ((∃ diagnostic ∈ diagnostics, isReported diagnostic = true) ∧
    after = before ++ [
      { id := "dts-diagnostics", stage := "fob-dts"
        text := String.join ((diagnostics.filter isReported).map fun diagnostic =>
          diagnostic.report.render 200)
        location := none }]) ∨
  ((∀ diagnostic ∈ diagnostics, isReported diagnostic = false) ∧ after = before)

variable {emitter context start} in
/-- How the stage goes on behind a type-checker that did its work to the end. -/
structure Completion (call : Call emitter context start.workspace) (emitted : Emitted) : Prop where
  replied : call.reply = .ok emitted
  /-- The type-checker is called for the plan, in its order. -/
  planned : call.emission.files = context.emissionPlan start.workspace.directoryPath
  /-- It is told to take every file on its own. -/
  isolated : call.emission.options.emitDeclarationOnly = true ∧
    call.emission.options.skipLibCheck = true ∧
    call.emission.options.isolatedModules = true ∧ call.emission.options.noResolve = true
  /-- Its call is the first to be recorded behind the start of the stage, and the last. -/
  once : call.recorded.emissions = start.workspace.emissions ++ [call.emission] ∧
    (outcome (emitter.run context) start).2.workspace.emissions = call.after.emissions
  warnings : Reports emitted.diagnostics (!·.isError) start.result.warnings
    (outcome (emitter.run context) start).2.result.warnings
  errors : Reports emitted.diagnostics Diagnostic.isError start.result.errors
    (outcome (emitter.run context) start).2.result.errors
  /-- The plan is linked in what the type-checker left, and the stage ends as that does. -/
  linked : ∃ between linked last, between.files = call.after.files ∧
    between.directory = start.workspace.directory ∧
    outcome (link call.emission.options.outDir call.emission.files) between = (linked, last) ∧
    (outcome (emitter.run context) start).1 = linked.map (fun _ => ()) ∧
    (outcome (emitter.run context) start).2.workspace.files = last.files
  /-- A fault is a failure to read or write the script of a planned source whose output files are
  both there. -/
  fault : ∀ fault, (outcome (emitter.run context) start).1 = .error fault →
    ∃ source ∈ call.emission.files, ∃ pair cause,
      ArtifactPair.ofSource? call.emission.options.outDir source = some pair ∧
      pair.isComplete call.after = true ∧ fault = .io pair.script cause

/-- The type-checker did its work to the end. -/
def Concludes : Prop :=
  ∃ (call : Call emitter context start.workspace) (emitted : Emitted), Completion call emitted

end

/-- Reporting diagnostics calls no type-checker. -/
theorem emissions_reported (diagnostics : List Diagnostic) (progress : Progress) :
    (reported diagnostics progress).workspace.emissions = progress.workspace.emissions := by
  unfold reported
  dsimp only
  split <;> rfl

/-- A message is made for the diagnostics of one severity if there are any. -/
theorem reports_append_ite (diagnostics : List Diagnostic) (isReported : Diagnostic → Bool)
    (before : List Message) :
    Reports diagnostics isReported before
      (before ++ if diagnostics.filter isReported = [] then []
        else [diagnosticsMessage (diagnostics.filter isReported)]) := by
  by_cases none : diagnostics.filter isReported = []
  · refine .inr ⟨?_, by rw [if_pos none, List.append_nil]⟩
    simpa [List.filter_eq_nil_iff] using none
  · refine .inl ⟨?_, by rw [if_neg none]; rfl⟩
    simpa [List.filter_eq_nil_iff] using none

/-- Behind the report of the diagnostics, the stage ends as the linking does. -/
theorem exists_outcome_answer_ok (context : Context) (directory : Path) (emitted : Emitted)
    (progress : Progress) :
    let final := outcome (answer context directory (.ok emitted)) progress
    ∃ linked last,
      outcome (link (context.options.resolvedOutDir directory) (context.emissionPlan directory))
        (reported emitted.diagnostics progress).workspace = (linked, last) ∧
      final.1 = linked.map (fun _ => ()) ∧ final.2.workspace.files = last.files ∧
      final.2.workspace.emissions = last.emissions := by
  rcases linking : outcome (link (context.options.resolvedOutDir directory)
    (context.emissionPlan directory)) (reported emitted.diagnostics progress).workspace with
      ⟨linked, last⟩
  refine ⟨linked, last, rfl, ?_⟩
  rw [answer, outcome_bind_ok (outcome_reportDiagnostics _ _), outcome_bind,
    Work.outcome_onWorkspace, linking]
  rcases linked with fault | linked <;> exact ⟨rfl, rfl, rfl⟩

section

variable {start : Progress} (clean : start.result.hasErrors = false)

include clean

/-- Without a type-checker or a plan, nothing happens. -/
theorem staysIdle_of_unavailable (unavailable : Unavailable emitter context start.workspace) :
    StaysIdle emitter context start := by
  refine ⟨unavailable, ?_⟩
  have loads : Succeeds (emitter.source.load (projectRoot context start.workspace.directoryPath)
    emitter.timeoutSecs : Action Fault _) := emitter.source.succeeds_load _ _
  obtain ⟨found, after, loaded⟩ := loads start.workspace
  have probed := emitter.source.probed_load (ε := Fault)
    (projectRoot context start.workspace.directoryPath) emitter.timeoutSecs start.workspace
  rw [loaded] at probed
  have ran := outcome_run_of_load clean loaded
  rcases found with _ | checker
  · exact ⟨_, ran, probed.logged _ _ _⟩
  · rcases unavailable with empty | ⟨other, none⟩
    · rw [ran]
      dsimp only
      rw [empty]
      exact ⟨_, rfl, probed.logged _ _ _⟩
    · cases loaded.symm.trans none

/-- A type-checker that fails is reported. -/
theorem reportsFault_of_reply (call : Call emitter context start.workspace) {cause : CheckerError}
    (failed : call.reply = .error cause) : ReportsFault emitter context start := by
  have ran := outcome_run_of_calls clean call.calls
  rw [failed] at ran
  exact ⟨call, cause, call.after.logged .warn logTarget
    s!"[fob-dts] type-checker failed: {cause.message}", failed, rfl, ran⟩

/-- A type-checker that does its work to the end is followed by the report and the linking. -/
theorem completion_of_reply (call : Call emitter context start.workspace) {emitted : Emitted}
    (replied : call.reply = .ok emitted) : Completion call emitted := by
  have ran := outcome_run_of_calls clean call.calls
  have result := result_answer_ok context start.workspace.directoryPath emitted
    ⟨call.after, start.result⟩
  obtain ⟨linked, last, linking, verdict, files, emissions⟩ := exists_outcome_answer_ok context
    start.workspace.directoryPath emitted ⟨call.after, start.result⟩
  rw [replied] at ran
  rw [← ran] at result verdict files emissions
  have stayed : (reported emitted.diagnostics ⟨call.after, start.result⟩).workspace.directory =
      call.after.directory := directory_reported _ _
  have unchanged : (reported emitted.diagnostics ⟨call.after, start.result⟩).workspace.files =
      call.after.files := files_reported _ _
  refine ⟨replied, rfl, ⟨rfl, rfl, rfl, rfl⟩, ⟨call.emissions_recorded, ?_⟩, ?_, ?_,
    ⟨_, linked, last, unchanged, stayed.trans call.calls.directory_eq, linking, verdict, files⟩, ?_⟩
  · have linkedOnly := emissions_link (context.options.resolvedOutDir start.workspace.directoryPath)
      (context.emissionPlan start.workspace.directoryPath)
      (reported emitted.diagnostics ⟨call.after, start.result⟩).workspace
    rw [linking] at linkedOnly
    exact emissions.trans (linkedOnly.trans (emissions_reported _ _))
  · rw [result]
    exact reports_append_ite _ _ _
  · rw [result]
    exact reports_append_ite _ _ _
  · intro fault failed
    rw [failed] at verdict
    rcases linked with cause | scripts
    · cases verdict
      obtain ⟨source, member, pair, cause, named, complete, isFault⟩ :=
        exists_pair_of_link_error linking
      refine ⟨source, member, pair, cause, named, ?_, isFault⟩
      rwa [pair.isComplete_alike (unchanged ▸ .refl _) stayed] at complete
    · cases verdict

/-- **How an emission ends.** In a build without errors, exactly one of three things happens:
nothing, the report of a failure of the type-checker, or the report of its diagnostics and the
linking of the plan. -/
theorem exactly_one_outcome :
    (StaysIdle emitter context start ∨ ReportsFault emitter context start ∨
        Concludes emitter context start) ∧
      ¬(StaysIdle emitter context start ∧ ReportsFault emitter context start) ∧
      ¬(StaysIdle emitter context start ∧ Concludes emitter context start) ∧
      ¬(ReportsFault emitter context start ∧ Concludes emitter context start) := by
  refine ⟨?_, ?_, ?_, ?_⟩
  · by_cases unavailable : Unavailable emitter context start.workspace
    · exact .inl (staysIdle_of_unavailable clean unavailable)
    · obtain ⟨call⟩ := Call.nonempty_iff.mpr unavailable
      rcases reply : call.reply with cause | emitted
      · exact .inr (.inl (reportsFault_of_reply clean call reply))
      · exact .inr (.inr ⟨call, emitted, completion_of_reply clean call reply⟩)
  · rintro ⟨⟨unavailable, -⟩, call, -⟩
    exact Call.nonempty_iff.mp ⟨call⟩ unavailable
  · rintro ⟨⟨unavailable, -⟩, call, -⟩
    exact Call.nonempty_iff.mp ⟨call⟩ unavailable
  · rintro ⟨⟨call, cause, after, failed, -⟩, call', emitted, completion⟩
    have replied := completion.replied
    rw [Subsingleton.elim call' call, failed] at replied
    cases replied

end

/-! ## A compiler that reports warnings and an error -/

/-- A diagnostic with a code and a message. -/
def coded (severity : Severity) (code message : String) : Diagnostic :=
  { Diagnostic.error message with severity, code := some code }

/-- The report of such a diagnostic, when its message is one letter. -/
theorem render_report_coded {severity : Severity} {code message : String} {c : Char}
    (single : message = String.singleton c) (letter : c.isAlpha = true) :
    (coded severity code message).report.render 200 =
      String.join ([code, "", "  " ++ Report.sign severity ++ " " ++ message].map (· ++ "\n")) := by
  have other : ∀ {d : Char}, d.isAlpha = false → c ≠ d := by
    rintro d other rfl
    rw [letter] at other
    cases other
  rw [Report.render, Diagnostic.lines_report_of_singleton single rfl (other (by decide))
    (other (by decide)) (other (by decide)), single]
  rfl

/-- What a compiler prints. -/
def threeDiagnostics : String := "warning TS1: a\nerror TS2: b\nwarning TS3: c\n"

/-- A compiler that prints two warnings and an error did its work to the end, and they are reported
by their severity, one report behind the other. -/
theorem exactly_one_outcome_sample :
    let start := packageWith (printingCompiler threeDiagnostics (.exit 2))
    start.result.hasErrors = false ∧
      Concludes (Configuration.emitter .default) packageContext start ∧
      (outcome ((Configuration.emitter .default).run packageContext) start).2.result =
        { errors := [⟨"dts-diagnostics", "fob-dts", "TS2\n\n  × b\n", none⟩]
          warnings :=
            [⟨"dts-diagnostics", "fob-dts", "TS1\n\n  ⚠ a\nTS3\n\n  ⚠ c\n", none⟩] } := by
  intro start
  have clean : start.result.hasErrors = false := rfl
  have read : Diagnostic.parse threeDiagnostics =
      [coded .warning "TS1" "a", coded .error "TS2" "b", coded .warning "TS3" "c"] := by
    decide +kernel
  have found : Compiler.diagnosticsOf ⟨[], Utf8.encode threeDiagnostics, [], .exit 2⟩ =
      .ok [coded .warning "TS1" "a", coded .error "TS2" "b", coded .warning "TS3" "c"] :=
    (Compiler.diagnosticsOf_eq_ok_iff rfl).mpr
      ⟨threeDiagnostics, Utf8.decode_encode _, read, List.cons_ne_nil _ _⟩
  obtain ⟨call, compiler, after, replied⟩ :=
    (starts_packageWith threeDiagnostics (.exit 2)).exists_call
  -- No diagnostic names a file, so no source is attached.
  have answered : call.reply = .ok ⟨[coded .warning "TS1" "a", coded .error "TS2" "b",
      coded .warning "TS3" "c"], call.emission.files.map call.emission.options.declarationPath⟩ := by
    rw [replied, Compiler.reply, found]
    rfl
  have one : StaysIdle (Configuration.emitter .default) packageContext start ∨
      ReportsFault (Configuration.emitter .default) packageContext start ∨
      Concludes (Configuration.emitter .default) packageContext start :=
    (exactly_one_outcome clean).1
  rcases one with ⟨unavailable, -⟩ | ⟨other, cause, -, failed, -⟩ | ⟨other, emitted, completion⟩
  · exact absurd unavailable (Call.nonempty_iff.mp ⟨call⟩)
  · rw [Subsingleton.elim other call, answered] at failed
    cases failed
  · refine ⟨clean, ⟨other, emitted, completion⟩, ?_⟩
    obtain rfl := Subsingleton.elim other call
    obtain rfl := Except.ok.inj (answered.symm.trans completion.replied)
    obtain ⟨-, warnings⟩ | ⟨none, -⟩ := completion.warnings
    · obtain ⟨-, errors⟩ | ⟨none, -⟩ := completion.errors
      · have a : (coded .warning "TS1" "a").report.render 200 = "TS1\n\n  ⚠ a\n" :=
          (render_report_coded (c := 'a') rfl rfl).trans (by decide +kernel)
        have b : (coded .error "TS2" "b").report.render 200 = "TS2\n\n  × b\n" :=
          (render_report_coded (c := 'b') rfl rfl).trans (by decide +kernel)
        have c : (coded .warning "TS3" "c").report.render 200 = "TS3\n\n  ⚠ c\n" :=
          (render_report_coded (c := 'c') rfl rfl).trans (by decide +kernel)
        have warned : List.filter (!·.isError) [coded .warning "TS1" "a", coded .error "TS2" "b",
            coded .warning "TS3" "c"] =
              [coded .warning "TS1" "a", coded .warning "TS3" "c"] := rfl
        have failed : List.filter Diagnostic.isError [coded .warning "TS1" "a",
            coded .error "TS2" "b", coded .warning "TS3" "c"] = [coded .error "TS2" "b"] := rfl
        have joined : String.join ["TS1\n\n  ⚠ a\n", "TS3\n\n  ⚠ c\n"] =
            "TS1\n\n  ⚠ a\nTS3\n\n  ⚠ c\n" := by decide +kernel
        rw [warned, List.map_cons, List.map_cons, List.map_nil, a, c, joined] at warnings
        rw [failed, List.map_cons, List.map_nil, b] at errors
        revert errors warnings
        rcases (outcome ((Configuration.emitter .default).run packageContext) start).2.result with
          ⟨_, _⟩
        rintro ⟨⟩ ⟨⟩
        rfl
      · exact absurd (none (coded .error "TS2" "b") (by simp)) (by decide)
    · exact absurd (none (coded .warning "TS1" "a") (by simp)) (by decide)

end Emitter

end Declarations

end BundleFinish
