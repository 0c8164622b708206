import BundleFinish.Proofs.Rewriting

/-! # What the emission of declarations comes to

In a build without errors, the emitter looks for a type-checker and calls it for the plan. It comes
to a value whatever the type-checker does; only the linking behind a type-checker that did its work
to the end can fail. -/

namespace BundleFinish.Declarations

open Build (Context Progress Work)

/-! ## Finding a type-checker never fails -/

section

variable {ε : Type}

theorem Compiler.succeeds_locate (projectRoot : Path) :
    Succeeds (locate projectRoot : Action ε (Option Path)) := by
  refine .bind .get fun workspace => ?_
  rcases nearest? workspace projectRoot with _ | path
  · refine .bind (fun state => ⟨_, _, rfl⟩) fun reply => ?_
    rcases reply with _ | _ | execution
    · exact .pure none
    · exact .pure none
    · exact .pure _
  · exact .pure _

theorem CheckerSource.succeeds_load (source : CheckerSource) (projectRoot : Path)
    (timeoutSecs : Nat) :
    Succeeds (source.load projectRoot timeoutSecs : Action ε (Option TypeChecker)) := by
  rcases source with _ | path | checker | _
  · refine .bind (Compiler.succeeds_locate projectRoot) fun found => ?_
    rcases found with _ | path
    · exact .bind (.modify _) fun _ => .pure none
    · exact .bind (.modify _) fun _ => .pure _
  · refine .bind .get fun workspace => .ite (.pure _) ?_
    exact .bind (.modify _) fun _ => .pure none
  · exact .pure (some checker)
  · exact .pure none

end

namespace Emitter

variable {emitter : Emitter} {context : Context} {progress : Progress} {before after : Workspace}

/-- In a context and from a workspace, an emitter finds a type-checker and calls it for a plan that
is not empty; the type-checker gives a reply and leaves a workspace. -/
def Calls (emitter : Emitter) (context : Context) (before : Workspace)
    (reply : Except CheckerError Emitted) (after : Workspace) : Prop :=
  let directory := before.directoryPath
  let plan := context.emissionPlan directory
  plan ≠ [] ∧ ∃ checker found,
    outcome (emitter.source.load (context.options.resolve directory context.options.cwd)
      emitter.timeoutSecs : Action Fault _) before = (.ok (some checker), found) ∧
    outcome (callChecker checker plan (emitter.options context directory))
      (found.logged .debug logTarget
        s!"[fob-dts] emitting {plan.length} declaration(s) with {checker.name}") =
      (.ok reply, after)

/-- What is done about the reply of a type-checker: a failure is reported, and what was emitted is
linked behind the report of the diagnostics. -/
def answer (context : Context) (directory : Path) : Except CheckerError Emitted → Work Unit
  | .error cause => do
    Work.log .warn logTarget s!"[fob-dts] type-checker failed: {cause.message}"
    Work.pushError (faultMessage cause)
  | .ok emitted => do
    let plan := context.emissionPlan directory
    reportDiagnostics emitted.diagnostics
    let linked ← Work.onWorkspace (link (context.options.resolvedOutDir directory) plan)
    Work.log .info logTarget
      s!"[fob-dts] emitted declarations for {plan.length} entry point(s), linked {linked.length}"

/-- In a build with errors, the stage writes a line into the log and does nothing else. -/
theorem outcome_run_of_hasErrors (errors : progress.result.hasErrors = true) :
    outcome (emitter.run context) progress =
      (.ok (), { progress with
        workspace := progress.workspace.logged .debug logTarget
          "[fob-dts] build has errors, skipping declarations" }) := by
  rw [run, outcome_bind_ok (Work.outcome_hasErrors progress), if_pos errors, Work.outcome_log]

/-- In a build without errors, the stage goes on with what its source gives. -/
theorem outcome_run_of_load (clean : progress.result.hasErrors = false) {found : Option TypeChecker}
    (loaded : outcome (emitter.source.load
      (context.options.resolve progress.workspace.directoryPath context.options.cwd)
      emitter.timeoutSecs : Action Fault _) progress.workspace = (.ok found, after)) :
    outcome (emitter.run context) progress =
      outcome (match found with
        | none =>
          Work.log .debug logTarget "[fob-dts] no type-checker available, skipping declarations"
        | some checker =>
          match context.emissionPlan progress.workspace.directoryPath with
          | [] =>
            Work.log .debug logTarget "[fob-dts] no tracked entry points, skipping declarations"
          | plan =>
            emitPlan checker plan (emitter.options context progress.workspace.directoryPath))
        { progress with workspace := after } := by
  have load := Work.outcome_onWorkspace_of loaded progress.result
  rw [run, outcome_bind_ok (Work.outcome_hasErrors progress), if_neg (by simp [clean]),
    outcome_bind_ok (Work.outcome_directoryPath progress)]
  exact outcome_bind_ok load

/-- A build without errors goes on from the reply of the type-checker that is called. -/
theorem outcome_run_of_calls (clean : progress.result.hasErrors = false)
    {reply : Except CheckerError Emitted}
    (calls : emitter.Calls context progress.workspace reply after) :
    outcome (emitter.run context) progress =
      outcome (answer context progress.workspace.directoryPath reply) ⟨after, progress.result⟩ := by
  obtain ⟨planned, checker, found, loaded, called⟩ := calls
  rw [outcome_run_of_load clean loaded]
  dsimp only
  rcases plan : context.emissionPlan progress.workspace.directoryPath with _ | ⟨source, others⟩
  · exact absurd plan planned
  · rw [plan] at called
    have call := Work.outcome_onWorkspace_of called progress.result
    dsimp only
    rw [emitPlan, outcome_bind_ok (Work.outcome_log _ _ _ _), outcome_bind_ok call]
    rcases reply with cause | emitted
    · rfl
    · rw [answer, plan]
      rfl

/-- In a build without errors, either a type-checker is called, or the stage comes to its end
without a report. -/
theorem calls_or_idle (emitter : Emitter) (context : Context)
    (clean : progress.result.hasErrors = false) :
    (∃ reply after, emitter.Calls context progress.workspace reply after) ∨
      ∃ after, outcome (emitter.run context) progress = (.ok (), ⟨after, progress.result⟩) := by
  have loads : Succeeds (emitter.source.load
      (context.options.resolve progress.workspace.directoryPath context.options.cwd)
      emitter.timeoutSecs : Action Fault _) := emitter.source.succeeds_load _ _
  obtain ⟨found, between, loaded⟩ := loads progress.workspace
  rcases found with _ | checker
  · right
    exact ⟨_, outcome_run_of_load clean loaded⟩
  · rcases plan : context.emissionPlan progress.workspace.directoryPath with _ | ⟨source, others⟩
    · right
      refine ⟨between.logged .debug logTarget
        "[fob-dts] no tracked entry points, skipping declarations", ?_⟩
      rw [outcome_run_of_load clean loaded]
      dsimp only
      rw [plan, Work.outcome_log]
    · left
      refine ⟨_, _, ?_, checker, between, loaded, rfl⟩
      rw [plan]
      exact List.cons_ne_nil source others

/-- Finding and calling a type-checker keeps the working directory. -/
theorem Calls.directory_eq {reply : Except CheckerError Emitted}
    (calls : emitter.Calls context before reply after) : after.directory = before.directory := by
  obtain ⟨-, checker, found, loaded, called⟩ := calls
  have finding := (CheckerSource.respects_load Workspace.allows_keeps_directory _ _ _).of_outcome
    loaded
  have calling := (respects_callChecker Workspace.allows_keeps_directory
    (fun workspace => rfl)).of_outcome called
  exact Eq.trans calling finding

/-- A stage whose type-checker did its work to the end, and that comes to its end, made the edits
for the plan. -/
theorem applyAll_of_run {emitted : Emitted} {final : Progress}
    (clean : progress.result.hasErrors = false)
    (calls : emitter.Calls context progress.workspace (.ok emitted) after)
    (done : outcome (emitter.run context) progress = (.ok (), final)) :
    after.files.applyAll after.directory
        (linkEdits after (context.options.resolvedOutDir progress.workspace.directoryPath)
          (context.emissionPlan progress.workspace.directoryPath)) = .ok final.workspace.files ∧
      final.result = (reported emitted.diagnostics ⟨after, progress.result⟩).result := by
  rw [outcome_run_of_calls clean calls, answer, outcome_bind_ok (outcome_reportDiagnostics _ _)]
    at done
  obtain ⟨linked, between, ran, last⟩ := exists_of_outcome_bind_ok done
  obtain ⟨linking, same⟩ := Work.outcome_onWorkspace_eq_iff.mp ran
  cases last
  have applied := applyAll_of_link linking
  have alike : FileTree.Alike after.files
      (reported emitted.diagnostics ⟨after, progress.result⟩).workspace.files := by
    rw [files_reported]
    exact .refl _
  rw [linkEdits_alike alike (directory_reported _ _), files_reported, directory_reported] at applied
  exact ⟨applied, same⟩

end Emitter

end BundleFinish.Declarations
