import BundleFinish.Declarations.Emission
import BundleFinish.Proofs.Outcome
import BundleFinish.Umd.Directory

/-! # What stages do to a workspace

Stages write files, start programs and call type-checkers, keep a record of both, and write log
lines of their own parts of the program. A relation between workspaces that allows these steps
(`Workspace.Allows`) holds between the workspace before and after a stage; a type-checker that is
given from outside must respect it by itself. -/

namespace BundleFinish

open Declarations

/-- The parts of the program that write log lines while stages run. -/
def Build.Stage.logTargets : List String :=
  [logTarget, Emitter.logTarget, CheckerSource.logTarget, Compiler.logTarget, linkingLogTarget,
    Umd.logTarget]

/-- What a build comes to when diagnostics are reported: warnings and errors make one message each,
and a line in the log says how many errors there are. -/
def Declarations.Emitter.reported (diagnostics : List Diagnostic) (progress : Build.Progress) :
    Build.Progress :=
  let errors := diagnostics.filter Diagnostic.isError
  let warnings := diagnostics.filter (!·.isError)
  { workspace :=
      if errors = [] then progress.workspace
      else
        progress.workspace.logged .warn logTarget s!"[fob-dts] {errors.length} type diagnostic(s)"
    result :=
      { errors :=
          progress.result.errors ++ if errors = [] then [] else [diagnosticsMessage errors]
        warnings :=
          progress.result.warnings ++
            if warnings = [] then [] else [diagnosticsMessage warnings] } }

/-- Reporting diagnostics does not fail. -/
theorem Declarations.Emitter.outcome_reportDiagnostics (diagnostics : List Diagnostic)
    (progress : Build.Progress) :
    outcome (reportDiagnostics diagnostics) progress =
      (.ok (), reported diagnostics progress) := by
  unfold reportDiagnostics reported
  dsimp only
  by_cases warnings : diagnostics.filter (!·.isError) = [] <;>
    by_cases errors : diagnostics.filter Diagnostic.isError = [] <;>
    simp [warnings, errors, outcome_bind, Build.Result.pushError, Build.Result.pushWarning]

/-- Reporting diagnostics changes no file. -/
@[simp] theorem Declarations.Emitter.files_reported (diagnostics : List Diagnostic)
    (progress : Build.Progress) :
    (reported diagnostics progress).workspace.files = progress.workspace.files := by
  unfold reported
  dsimp only
  split <;> rfl

/-- Reporting diagnostics keeps the working directory. -/
@[simp] theorem Declarations.Emitter.directory_reported (diagnostics : List Diagnostic)
    (progress : Build.Progress) :
    (reported diagnostics progress).workspace.directory = progress.workspace.directory := by
  unfold reported
  dsimp only
  split <;> rfl

/-- Without a diagnostic that is an error, no error is reported. -/
theorem Declarations.Emitter.errors_reported {diagnostics : List Diagnostic}
    (none : ∀ diagnostic ∈ diagnostics, diagnostic.isError = false) (progress : Build.Progress) :
    (reported diagnostics progress).result.errors = progress.result.errors := by
  have empty : diagnostics.filter Diagnostic.isError = [] := by
    rw [List.filter_eq_nil_iff]
    intro diagnostic member
    rw [none diagnostic member]
    exact Bool.false_ne_true
  unfold reported
  dsimp only
  rw [if_pos empty, List.append_nil]

/-- A relation between workspaces that holds for each single step of a stage. -/
structure Workspace.Allows (R : Workspace → Workspace → Prop) : Prop where
  files : ∀ workspace files, R workspace { workspace with files }
  run : ∀ workspace run directory execution,
    R workspace (workspace.afterRun run directory execution)
  emission : ∀ workspace emissions, R workspace { workspace with emissions }
  log : ∀ workspace level target text, target ∈ Build.Stage.logTargets →
    R workspace (workspace.logged level target text)

section

variable {ε : Type} {R : Workspace → Workspace → Prop} [IsPreorder Workspace R]
  (allows : Workspace.Allows R)

include allows

omit [IsPreorder Workspace R] in
/-- A stage may write a log line of its own part of the program. -/
theorem Action.respects_log {level : Logging.Level} {target : String}
    (isTarget : target ∈ Build.Stage.logTargets) (text : String) :
    Respects R (Action.log level target text : Action ε Unit) :=
  fun workspace => allows.log workspace level target text isTarget

omit [IsPreorder Workspace R] in
/-- A stage may write a log line of its own part of the program. -/
theorem Build.Work.respects_log {level : Logging.Level} {target : String}
    (isTarget : target ∈ Build.Stage.logTargets) (text : String) :
    Respects (InvImage R Build.Progress.workspace) (Build.Work.log level target text) :=
  fun progress => allows.log progress.workspace level target text isTarget

/-! ## Wrapping -/

namespace Umd

open Build (Context Progress Work)

theorem respects_wrapScript (globalName : String) (script : Path) :
    Respects R (wrapScript globalName script) := by
  refine .bind (Action.respects_mapError _ (Action.respects_readText script)) fun text => ?_
  refine .bind (Action.respects_mapError _ (Action.respects_writeText allows.files _ _)) fun _ => ?_
  exact Action.respects_log allows (by decide) _

theorem respects_wrapScripts (globalName : String) (scripts : List Path) :
    Respects R (wrapScripts globalName scripts) := by
  induction scripts with
  | nil => exact .pure ()
  | cons script others ih => exact .bind (respects_wrapScript allows globalName script) fun _ => ih

theorem respects_wrapDirectory (globalName : String) (directory : Path) :
    Respects R (wrapDirectory globalName directory) := by
  refine .bind .get fun workspace => ?_
  rcases scripts workspace directory with cause | found
  · exact .throw _
  · exact .bind (respects_wrapScripts allows globalName found) fun _ => .pure found

theorem respects_run (globalName : String) (context : Context) :
    Respects (InvImage R Progress.workspace) (run globalName context) := by
  refine .bind (.bind .get fun progress => .pure _) fun errors => .ite ?_ ?_
  · exact Work.respects_log allows (by decide) _
  · refine .bind (.bind .get fun progress => .pure _) fun directory => ?_
    refine .bind (Work.respects_onWorkspace (respects_wrapDirectory allows _ _)) fun _ => ?_
    exact Work.respects_log allows (by decide) _

end Umd

/-! ## Linking -/

namespace Declarations

theorem respects_linkPair (pair : ArtifactPair) : Respects R (linkPair pair) := by
  refine .bind (Action.respects_mapError _ (Action.respects_readText pair.script)) fun text => ?_
  refine .bind (Action.respects_mapError _ (Action.respects_writeText allows.files _ _)) fun _ => ?_
  exact Action.respects_log allows (by decide) _

theorem respects_linkSource (directory source : Path) :
    Respects R (linkSource directory source) := by
  unfold linkSource
  rcases ArtifactPair.ofSource? directory source with _ | pair
  · exact .pure none
  · refine .bind .get fun workspace => .ite ?_ ?_
    · exact .bind (respects_linkPair allows pair) fun _ => .pure _
    · exact .bind (Action.respects_log allows (by decide) _) fun _ => .pure none

theorem respects_link (directory : Path) (plan : List Path) :
    Respects R (link directory plan) := by
  induction plan with
  | nil => exact .pure []
  | cons source plan ih =>
    refine .bind (respects_linkSource allows directory source) fun script => ?_
    exact .bind ih fun others => .pure _

end Declarations

/-! ## Finding and calling type-checkers -/

theorem Action.respects_execute (limit : Nat) (program directory : Path)
    (arguments : List String) : Respects R (Action.execute limit program directory arguments) := by
  -- The run is recorded in the workspace that was seen at the start: it is still the current one.
  intro workspace
  rw [Action.execute, outcome_bind_ok (outcome_get workspace)]
  rcases workspace.startable program directory arguments with cause | ⟨place, found, below⟩
  · exact refl_of R workspace
  · dsimp only
    split
    · exact allows.files workspace _
    · exact allows.run workspace _ _ _

theorem Action.respects_executeHere (program : Path) (arguments : List String) :
    Respects R (Action.executeHere program arguments) := by
  intro workspace
  rw [Action.executeHere, outcome_bind_ok (outcome_get workspace)]
  rcases workspace.startableHere program arguments with cause | ⟨place, found⟩
  · exact refl_of R workspace
  · dsimp only
    split
    · exact refl_of R workspace
    · exact allows.run workspace _ _ _

namespace Declarations

open Build (Context Progress Work)

namespace Compiler

theorem respects_lookUp : Respects R (lookUp : Action ε (Option Path)) := by
  refine .bind (Action.respects_attempt (Action.respects_executeHere allows _ _)) fun reply => ?_
  rcases reply with _ | _ | execution
  · exact .pure none
  · exact .pure none
  · exact .pure _

theorem respects_locate (projectRoot : Path) :
    Respects R (locate projectRoot : Action ε (Option Path)) := by
  refine .bind .get fun workspace => ?_
  rcases nearest? workspace projectRoot with _ | path
  · exact respects_lookUp allows
  · exact .pure _

theorem respects_emit (compiler : Compiler) (files : List Path) (options : Options) :
    Respects R (compiler.emit files options) := by
  refine .bind (Action.respects_log allows (by decide) _) fun _ => ?_
  refine .bind (Action.respects_mapError _ (Action.respects_execute allows _ _ _ _))
    fun finished => ?_
  rcases finished with _ | execution
  · exact .throw _
  · dsimp only
    rcases diagnosticsOf execution with cause | diagnostics
    · exact .throw cause
    · exact .bind .get fun workspace => .pure _

end Compiler

theorem CheckerSource.respects_load (source : CheckerSource) (projectRoot : Path)
    (timeoutSecs : Nat) :
    Respects R (source.load projectRoot timeoutSecs : Action ε (Option TypeChecker)) := by
  rcases source with _ | path | checker | _
  · refine .bind (Compiler.respects_locate allows projectRoot) fun found => ?_
    rcases found with _ | path
    · exact .bind (Action.respects_log allows (by decide) _) fun _ => .pure none
    · exact .bind (Action.respects_log allows (by decide) _) fun _ => .pure _
  · refine .bind .get fun workspace => .ite (.pure _) ?_
    exact .bind (Action.respects_log allows (by decide) _) fun _ => .pure none
  · exact .pure (some checker)
  · exact .pure none

/-- A type-checker that a source may give. -/
def CheckerSource.MayGive (source : CheckerSource) (checker : TypeChecker) : Prop :=
  ∃ projectRoot timeoutSecs before after,
    outcome (source.load projectRoot timeoutSecs : Action Fault _) before =
      (.ok (some checker), after)

namespace Emitter

/-- Calling a type-checker respects what the type-checker itself respects. -/
theorem respects_callChecker {checker : TypeChecker} {plan : List Path} {options : Options}
    (keeps : Respects R (checker.emit plan options).confined) :
    Respects R (callChecker checker plan options) :=
  .bind (.modify fun workspace => allows.emission workspace _) fun _ =>
    Action.respects_attempt keeps

theorem respects_reportDiagnostics (diagnostics : List Diagnostic) :
    Respects (InvImage R Progress.workspace) (reportDiagnostics diagnostics) := by
  intro progress
  rw [outcome_reportDiagnostics]
  change R progress.workspace (reported diagnostics progress).workspace
  unfold reported
  dsimp only
  by_cases errors : diagnostics.filter Diagnostic.isError = []
  · rw [if_pos errors]
    exact refl_of R progress.workspace
  · rw [if_neg errors]
    exact allows.log progress.workspace _ _ _ (by decide)

theorem respects_emitPlan {checker : TypeChecker} {plan : List Path} {options : Options}
    (keeps : Respects R (checker.emit plan options).confined) :
    Respects (InvImage R Progress.workspace) (emitPlan checker plan options) := by
  refine .bind (Work.respects_log allows (by decide) _) fun _ => ?_
  refine .bind (Work.respects_onWorkspace (respects_callChecker allows keeps)) fun reply => ?_
  rcases reply with cause | emitted
  · refine .bind (Work.respects_log allows (by decide) _) fun _ => ?_
    exact fun progress => refl_of R progress.workspace
  · refine .bind (respects_reportDiagnostics allows _) fun _ => ?_
    refine .bind (Work.respects_onWorkspace (respects_link allows _ _)) fun linked => ?_
    exact Work.respects_log allows (by decide) _

theorem respects_run (emitter : Emitter)
    (checkers : ∀ checker, emitter.source.MayGive checker →
      ∀ plan options, Respects R (checker.emit plan options).confined) (context : Context) :
    Respects (InvImage R Progress.workspace) (emitter.run context) := by
  refine .bind (.bind .get fun progress => .pure _) fun errors => .ite ?_ ?_
  · exact Work.respects_log allows (by decide) _
  · refine .bind (.bind .get fun progress => .pure _) fun directory => ?_
    refine .bind_of (Work.respects_onWorkspace (CheckerSource.respects_load allows _ _ _)) ?_
    intro found before after loaded
    rcases found with _ | checker
    · exact Work.respects_log allows (by decide) _
    · have given : emitter.source.MayGive checker :=
        ⟨_, _, before.workspace, after.workspace, (Work.outcome_onWorkspace_eq_iff.mp loaded).1⟩
      dsimp only
      split
      · exact Work.respects_log allows (by decide) _
      · exact respects_emitPlan allows (checkers checker given _ _)

end Emitter

end Declarations

end

end BundleFinish
