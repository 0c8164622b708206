import BundleFinish.Proofs.Emission

/-! # Runs of stages

Stages that emit declarations and stages that wrap scripts, in any order, work on one result. A run
only appends to it; behind an error nothing is done any more but writing lines into the log; and a
run that ends in a fault ends in the first stage that cannot read or write the output directory. -/

namespace BundleFinish

namespace Build

/-! ## More lines in the log -/

/-- A build with more lines in the log. -/
def Progress.withLines (progress : Progress) (lines : List LogLine) : Progress :=
  { progress with
    workspace := { progress.workspace with log := progress.workspace.log ++ lines } }

namespace Progress

@[simp] theorem result_withLines (progress : Progress) (lines : List LogLine) :
    (progress.withLines lines).result = progress.result := rfl

@[simp] theorem withLines_nil (progress : Progress) : progress.withLines [] = progress := by
  rw [withLines, List.append_nil]

@[simp] theorem withLines_withLines (progress : Progress) (lines others : List LogLine) :
    (progress.withLines lines).withLines others = progress.withLines (lines ++ others) := by
  simp only [withLines, List.append_assoc]

end Progress

/-! ## The reports of a build -/

/-- A result with reports behind those of another one. -/
def Result.Extends (before after : Result) : Prop :=
  before.errors <+: after.errors ∧ before.warnings <+: after.warnings

instance : IsPreorder Result Result.Extends where
  refl _ := ⟨List.prefix_rfl, List.prefix_rfl⟩
  trans _ _ _ first second := ⟨first.1.trans second.1, first.2.trans second.2⟩

namespace Work

/-- Acting on the workspace reports nothing. -/
theorem extends_onWorkspace {α : Type} (action : Action Fault α) :
    Respects (InvImage Result.Extends Progress.result) (onWorkspace action) :=
  fun progress => refl_of Result.Extends progress.result

/-- An error is appended. -/
theorem extends_pushError (message : Message) :
    Respects (InvImage Result.Extends Progress.result) (pushError message) :=
  fun _ => ⟨List.prefix_append _ _, List.prefix_rfl⟩

end Work

end Build

open Build (Context Progress Result Stage Work)

/-! ## Single stages -/

namespace Declarations.Emitter

/-- Reporting diagnostics only appends to the result. -/
theorem extends_reportDiagnostics (diagnostics : List Diagnostic) :
    Respects (InvImage Result.Extends Progress.result) (reportDiagnostics diagnostics) := by
  intro progress
  rw [outcome_reportDiagnostics]
  exact ⟨List.prefix_append _ _, List.prefix_append _ _⟩

/-- Emitting declarations only appends to the result. -/
theorem extends_run (emitter : Emitter) (context : Context) :
    Respects (InvImage Result.Extends Progress.result) (emitter.run context) := by
  refine .bind (.bind .get fun _ => .pure _) fun errors => .ite (Work.extends_onWorkspace _) ?_
  refine .bind (.bind .get fun _ => .pure _) fun directory => ?_
  refine .bind (Work.extends_onWorkspace _) fun found => ?_
  rcases found with _ | checker
  · exact Work.extends_onWorkspace _
  · dsimp only
    split
    · exact Work.extends_onWorkspace _
    · refine .bind (Work.extends_onWorkspace _) fun _ => ?_
      refine .bind (Work.extends_onWorkspace _) fun reply => ?_
      rcases reply with cause | emitted
      · exact .bind (Work.extends_onWorkspace _) fun _ => Work.extends_pushError _
      · refine .bind (extends_reportDiagnostics _) fun _ => ?_
        exact .bind (Work.extends_onWorkspace _) fun _ => Work.extends_onWorkspace _

end Declarations.Emitter

namespace Umd

/-- Wrapping scripts reports nothing. -/
theorem extends_run (globalName : String) (context : Context) :
    Respects (InvImage Result.Extends Progress.result) (run globalName context) := by
  refine .bind (.bind .get fun _ => .pure _) fun errors => .ite (Work.extends_onWorkspace _) ?_
  refine .bind (.bind .get fun _ => .pure _) fun directory => ?_
  exact .bind (Work.extends_onWorkspace _) fun _ => Work.extends_onWorkspace _

/-- In a build with errors, the stage writes a line into the log and does nothing else. -/
theorem outcome_run_of_hasErrors {globalName : String} {context : Context} {progress : Progress}
    (errors : progress.result.hasErrors = true) :
    outcome (run globalName context) progress =
      (.ok (), { progress with
        workspace := progress.workspace.logged .debug logTarget
          "[fob-umd] build has errors, skipping UMD wrapping" }) := by
  rw [run, outcome_bind_ok (Work.outcome_hasErrors progress), if_pos errors, Work.outcome_log]

/-- In a build without errors, the stage wraps the output directory. -/
theorem outcome_run_of_clean {globalName : String} {context : Context} {progress : Progress}
    (clean : progress.result.hasErrors = false) :
    outcome (run globalName context) progress =
      outcome (do
        let wrapped ← Work.onWorkspace (wrapDirectory globalName
          (context.options.resolvedOutDir progress.workspace.directoryPath))
        Work.log .info logTarget s!"[fob-umd] wrapped {wrapped.length} file(s) as {globalName}")
        progress := by
  rw [run, outcome_bind_ok (Work.outcome_hasErrors progress), if_neg (by simp [clean]),
    outcome_bind_ok (Work.outcome_directoryPath progress)]

/-- A stage that comes to its end in a build without errors wrapped the scripts of the output
directory. -/
theorem applyAll_of_run {globalName : String} {context : Context} {progress final : Progress}
    (clean : progress.result.hasErrors = false)
    (done : outcome (run globalName context) progress = (.ok (), final)) :
    ∃ found, scripts progress.workspace
        (context.options.resolvedOutDir progress.workspace.directoryPath) = .ok found ∧
      progress.workspace.files.applyAll progress.workspace.directory
        (found.map (wrapEdit globalName)) = .ok final.workspace.files := by
  rw [outcome_run_of_clean clean] at done
  obtain ⟨found, between, ran, last⟩ := exists_of_outcome_bind_ok done
  cases last
  have wrapped := applyAll_of_wrapDirectory (Work.outcome_onWorkspace_eq_iff.mp ran).1
  exact ⟨found, wrapped⟩

end Umd

/-! ## The stages that change a build -/

namespace Build

/-- A stage that changes a finished build. -/
inductive OutputStage where
  /-- Emit declarations and link them. -/
  | declarations (emitter : Declarations.Emitter)
  /-- Wrap the scripts for a global name. -/
  | wrapping (globalName : String)

namespace OutputStage

/-- What is run. -/
def stage : OutputStage → Stage
  | declarations emitter => emitter.stage
  | wrapping globalName => Umd.stage globalName

/-- How a stage comes to a fault: the scripts cannot be linked behind a type-checker that did its
work to the end, or they cannot be wrapped. -/
inductive Fails (context : Context) : OutputStage → Progress → Fault → Progress → Prop
  | linking {emitter : Declarations.Emitter} {progress : Progress} {emitted : Declarations.Emitted}
      {checked after : Workspace} {fault : Fault}
      (calls : emitter.Calls context progress.workspace (.ok emitted) checked)
      (failed : outcome
        (Declarations.link (context.options.resolvedOutDir progress.workspace.directoryPath)
          (context.emissionPlan progress.workspace.directoryPath))
        (Declarations.Emitter.reported emitted.diagnostics ⟨checked, progress.result⟩).workspace =
          (.error fault, after)) :
      Fails context (declarations emitter) progress fault
        ⟨after,
          (Declarations.Emitter.reported emitted.diagnostics ⟨checked, progress.result⟩).result⟩
  | wrapping {globalName : String} {progress : Progress} {after : Workspace} {fault : Fault}
      (failed : outcome (Umd.wrapDirectory globalName
        (context.options.resolvedOutDir progress.workspace.directoryPath)) progress.workspace =
          (.error fault, after)) :
      Fails context (wrapping globalName) progress fault ⟨after, progress.result⟩

variable {context : Context} {kind : OutputStage} {kinds : List OutputStage}
  {progress final : Progress} {fault : Fault}

/-- A stage that ends in a fault does so in one of these ways. -/
theorem fails_of_outcome_error
    (failed : outcome (kind.stage.run context) progress = (.error fault, final)) :
    Fails context kind progress fault final := by
  by_cases errors : progress.result.hasErrors = true
  -- In a build with errors no stage fails, so there is nothing to show.
  · rcases kind with emitter | globalName
    · have ended : outcome (emitter.run context) progress = (.error fault, final) := failed
      rw [Declarations.Emitter.outcome_run_of_hasErrors errors] at ended
      cases ended
    · have ended : outcome (Umd.run globalName context) progress = (.error fault, final) := failed
      rw [Umd.outcome_run_of_hasErrors errors] at ended
      cases ended
  · have clean : progress.result.hasErrors = false := Bool.eq_false_iff.mpr errors
    rcases kind with emitter | globalName
    · rcases emitter.calls_or_idle context clean with ⟨reply, checked, calls⟩ | ⟨after, idle⟩
      · have answered := (Declarations.Emitter.outcome_run_of_calls clean calls).symm.trans failed
        rcases reply with cause | emitted
        · cases answered
        · rw [Declarations.Emitter.answer,
            outcome_bind_ok (Declarations.Emitter.outcome_reportDiagnostics _ _), outcome_bind,
            Work.outcome_onWorkspace] at answered
          rcases linked : outcome
              (Declarations.link (context.options.resolvedOutDir progress.workspace.directoryPath)
                (context.emissionPlan progress.workspace.directoryPath))
              (Declarations.Emitter.reported emitted.diagnostics
                ⟨checked, progress.result⟩).workspace with ⟨cause | scripts, after⟩
          · rw [linked] at answered
            cases answered
            exact .linking calls linked
          · rw [linked] at answered
            cases answered
      · cases idle.symm.trans failed
    · have wrapping := (Umd.outcome_run_of_clean clean).symm.trans failed
      rw [outcome_bind, Work.outcome_onWorkspace] at wrapping
      rcases wrapped : outcome (Umd.wrapDirectory globalName
          (context.options.resolvedOutDir progress.workspace.directoryPath)) progress.workspace with
        ⟨cause | scripts, after⟩
      · rw [wrapped] at wrapping
        cases wrapping
        exact .wrapping wrapped
      · rw [wrapped] at wrapping
        cases wrapping

/-- The path in a fault is that of the output directory or of a file in it. -/
theorem Fails.exists_io (fails : Fails context kind progress fault final) :
    ∃ path cause, fault = .io path cause ∧
      (path = context.options.resolvedOutDir progress.workspace.directoryPath ∨
        ∃ name, Path.isName name = true ∧
          path =
            (context.options.resolvedOutDir progress.workspace.directoryPath).join ⟨name⟩) := by
  cases fails with
  | linking calls failed =>
    obtain ⟨name, cause, isName, rfl⟩ := Declarations.exists_of_link_error failed
    exact ⟨_, cause, rfl, .inr ⟨name, isName, rfl⟩⟩
  | wrapping failed => exact Umd.exists_of_wrapDirectory_error failed

/-- A stage only appends to the result. -/
theorem extends_stage (kind : OutputStage) (context : Context) :
    Respects (InvImage Result.Extends Progress.result) (kind.stage.run context) := by
  cases kind with
  | declarations emitter => exact emitter.extends_run context
  | wrapping globalName => exact Umd.extends_run globalName context

/-- A stage keeps the working directory, whatever its type-checker does. -/
theorem keeps_directory_stage (kind : OutputStage) (context : Context) :
    Respects (InvImage (Keeps Workspace.directory) Progress.workspace)
      (kind.stage.run context) := by
  cases kind with
  | declarations emitter =>
    refine emitter.respects_run Workspace.allows_keeps_directory ?_ context
    exact fun checker _ plan options workspace => rfl
  | wrapping globalName =>
    exact Umd.respects_run Workspace.allows_keeps_directory globalName context

/-- In a build with errors, a stage writes lines into the log and does nothing else. -/
theorem outcome_stage_of_hasErrors (kind : OutputStage) (context : Context)
    (errors : progress.result.hasErrors = true) :
    ∃ line, outcome (kind.stage.run context) progress = (.ok (), progress.withLines [line]) := by
  cases kind with
  | declarations emitter =>
    exact ⟨_, Declarations.Emitter.outcome_run_of_hasErrors errors⟩
  | wrapping globalName => exact ⟨_, Umd.outcome_run_of_hasErrors errors⟩

end OutputStage

/-! ## Runs -/

namespace Stage

variable {context : Context} {progress : Progress} {stage : Stage} {stages others : List Stage}

/-- The build in which a stage starts: the log says so. -/
def announced (stage : Stage) (progress : Progress) : Progress :=
  progress.withLines
    [⟨.debug, logTarget, s!"[fob-postbuild] running build-end hook {stage.name}"⟩]

/-- The first stage, and then the others. -/
theorem outcome_runAll_cons :
    outcome (runAll context (stage :: others)) progress =
      outcome (stage.run context >>= fun _ => runAll context others)
        (stage.announced progress) := by
  rw [runAll, outcome_bind_ok (Work.outcome_log _ _ _ _)]
  rfl

/-- Some stages, and then the others. -/
theorem outcome_runAll_append :
    outcome (runAll context (stages ++ others)) progress =
      outcome (runAll context stages >>= fun _ => runAll context others) progress := by
  induction stages generalizing progress with
  | nil => rfl
  | cons stage stages ih =>
    rw [List.cons_append, outcome_runAll_cons, outcome_bind, outcome_bind, outcome_runAll_cons,
      outcome_bind]
    rcases outcome (stage.run context) (stage.announced progress) with ⟨fault | _, between⟩
    · rfl
    · dsimp only
      rw [ih, outcome_bind]

end Stage

namespace OutputStage

/-- Run stages one after the other. -/
def runAll (context : Context) (kinds : List OutputStage) : Work Unit :=
  Stage.runAll context (kinds.map stage)

variable {context : Context} {kind : OutputStage} {kinds others : List OutputStage}
  {progress final : Progress} {fault : Fault}

@[simp] theorem runAll_nil : runAll context [] = pure () := rfl

theorem outcome_runAll_cons :
    outcome (runAll context (kind :: others)) progress =
      outcome (kind.stage.run context >>= fun _ => runAll context others)
        (kind.stage.announced progress) :=
  Stage.outcome_runAll_cons

theorem outcome_runAll_append :
    outcome (runAll context (kinds ++ others)) progress =
      outcome (runAll context kinds >>= fun _ => runAll context others) progress := by
  rw [runAll, List.map_append]
  exact Stage.outcome_runAll_append

/-- What each stage respects, with the line in the log that announces it, a run respects. -/
theorem respects_runAll {R : Progress → Progress → Prop} [IsPreorder Progress R]
    (announces : ∀ (kind : OutputStage) progress, R progress (kind.stage.announced progress))
    (keeps : ∀ kind ∈ kinds, Respects R (kind.stage.run context)) :
    Respects R (runAll context kinds) := by
  induction kinds with
  | nil => exact .pure ()
  | cons kind others ih =>
    intro progress
    rw [outcome_runAll_cons]
    have rest := ih fun other member => keeps other (List.mem_cons_of_mem kind member)
    exact trans_of R (announces kind progress)
      (Respects.bind (keeps kind List.mem_cons_self) (fun _ => rest) _)

/-- A run only appends to the result. -/
theorem extends_runAll (context : Context) (kinds : List OutputStage) :
    Respects (InvImage Result.Extends Progress.result) (runAll context kinds) :=
  respects_runAll (fun _ progress => refl_of Result.Extends progress.result)
    fun kind _ => extends_stage kind context

/-- A run keeps the working directory. -/
theorem keeps_directory_runAll (context : Context) (kinds : List OutputStage) :
    Respects (InvImage (Keeps Workspace.directory) Progress.workspace) (runAll context kinds) :=
  respects_runAll (fun _ _ => rfl) fun kind _ => keeps_directory_stage kind context

/-- In a build with errors, a run writes lines into the log and does nothing else. -/
theorem outcome_runAll_of_hasErrors (context : Context) (kinds : List OutputStage)
    (errors : progress.result.hasErrors = true) :
    ∃ lines, outcome (runAll context kinds) progress = (.ok (), progress.withLines lines) := by
  induction kinds generalizing progress with
  | nil => exact ⟨[], by rw [Progress.withLines_nil]; rfl⟩
  | cons kind others ih =>
    have announced : (kind.stage.announced progress).result.hasErrors = true := errors
    obtain ⟨line, first⟩ := outcome_stage_of_hasErrors kind context announced
    have still : ((kind.stage.announced progress).withLines [line]).result.hasErrors = true :=
      errors
    obtain ⟨lines, rest⟩ := ih still
    rw [outcome_runAll_cons, outcome_bind_ok first, rest, Stage.announced,
      Progress.withLines_withLines, Progress.withLines_withLines]
    exact ⟨_, rfl⟩

/-- A run that ends in a fault ends in one of its stages, and the later ones do nothing. -/
theorem exists_of_runAll_error
    (failed : outcome (runAll context kinds) progress = (.error fault, final)) :
    ∃ before failing after between, kinds = before ++ failing :: after ∧
      outcome (runAll context before) progress = (.ok (), between) ∧
      outcome (failing.stage.run context) (failing.stage.announced between) =
        (.error fault, final) := by
  induction kinds generalizing progress with
  | nil => cases failed
  | cons kind others ih =>
    rw [outcome_runAll_cons, outcome_bind] at failed
    rcases ran : outcome (kind.stage.run context) (kind.stage.announced progress) with
      ⟨cause | _, between⟩
    · rw [ran] at failed
      cases failed
      exact ⟨[], kind, others, progress, rfl, rfl, ran⟩
    · rw [ran] at failed
      obtain ⟨before, failing, after, reached, rfl, first, last⟩ := ih failed
      refine ⟨kind :: before, failing, after, reached, rfl, ?_, last⟩
      rw [outcome_runAll_cons, outcome_bind_ok ran, first]

/-- **What a run of stages keeps.** For any stages in any order, any sources, type-checkers and
files: a run only appends to the errors and warnings; from the first stage that starts in a build
with errors, it writes lines into the log and does nothing else, and comes to its end; and a fault
names the output directory or a file in it, where linking behind a type-checker that did its work to
the end, or wrapping, could not read or write. Then the run is that of the stages up to the failing
one. -/
theorem runAll_contract (kinds : List OutputStage) (context : Context) (start : Progress) :
    (start.result.errors <+: (outcome (runAll context kinds) start).2.result.errors ∧
      start.result.warnings <+: (outcome (runAll context kinds) start).2.result.warnings) ∧
    (∀ before after between, kinds = before ++ after →
      outcome (runAll context before) start = (.ok (), between) →
      between.result.errors ≠ [] →
      ∃ lines, outcome (runAll context kinds) start = (.ok (), between.withLines lines)) ∧
    ∀ fault final, outcome (runAll context kinds) start = (.error fault, final) →
      (∃ path cause, fault = .io path cause ∧
        (path = context.options.resolvedOutDir start.workspace.directoryPath ∨
          ∃ name, Path.isName name = true ∧
            path = (context.options.resolvedOutDir start.workspace.directoryPath).join ⟨name⟩)) ∧
      ∃ before failing after between, kinds = before ++ failing :: after ∧
        outcome (runAll context before) start = (.ok (), between) ∧
        Fails context failing (failing.stage.announced between) fault final ∧
        outcome (runAll context (before ++ [failing])) start = (.error fault, final) := by
  refine ⟨extends_runAll context kinds start, ?_, ?_⟩
  · rintro before after between rfl reached errors
    have hasErrors : between.result.hasErrors = true := by
      simpa [Result.hasErrors] using errors
    obtain ⟨lines, rest⟩ := outcome_runAll_of_hasErrors context after hasErrors
    exact ⟨lines, by rw [outcome_runAll_append, outcome_bind_ok reached, rest]⟩
  · intro fault final failed
    obtain ⟨before, failing, after, between, rfl, reached, last⟩ := exists_of_runAll_error failed
    have fails := fails_of_outcome_error last
    have stayed : between.workspace.directory = start.workspace.directory :=
      (keeps_directory_runAll context before).of_outcome reached
    constructor
    · have named := fails.exists_io
      unfold Workspace.directoryPath at named ⊢
      rw [← stayed]
      exact named
    · refine ⟨before, failing, after, between, rfl, reached, fails, ?_⟩
      rw [outcome_runAll_append, outcome_bind_ok reached, outcome_runAll_cons,
        outcome_bind_error last]

end OutputStage

end Build

end BundleFinish
