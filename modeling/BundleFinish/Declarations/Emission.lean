import BundleFinish.Build.Stage
import BundleFinish.Declarations.CheckerSource
import BundleFinish.Declarations.Linking
import BundleFinish.Report.Basic

/-! # Emission of declarations

The stage that has declarations emitted for the planned sources and links them to the scripts. It
does nothing in a build with errors, without a type-checker, and without a plan. What a type-checker
reports, and that it failed, goes into the result of the build; only an output file that cannot be
read and written back is a fault. -/

namespace BundleFinish.Declarations

open Build (Context Message Work)

/-- How declarations are emitted. -/
structure Emitter where
  source : CheckerSource
  target : Target
  module : ModuleKind
  declarationMap : Bool
  stripInternal : Bool
  timeoutSecs : Nat

namespace Emitter

/-- The name of the stage. -/
def stageName : String := "fob-dts"

/-- The kind of message for what a type-checker reports. -/
def diagnosticsId : String := "dts-diagnostics"

/-- The kind of message for a type-checker that failed. -/
def faultId : String := "dts-fault"

/-- The part of the program that writes the log lines of this module. -/
def logTarget : String := "fob_postbuild::dts"

/-- What the type-checker is told in a context. -/
def options (emitter : Emitter) (context : Context) (directory : Path) : Options :=
  { Options.isolated (context.options.resolvedRootDir directory)
      (context.options.resolvedOutDir directory) with
    target := emitter.target
    module := emitter.module
    declarationMap := emitter.declarationMap
    stripInternal := emitter.stripInternal }

/-- The directory that is taken for the project in a context: compilers are looked for from there
upwards, run there, and name the files of their diagnostics from there. -/
def projectRoot (context : Context) (directory : Path) : Path :=
  -- The base directory is itself resolved against the base: a relative one counts twice.
  context.options.resolve directory context.options.cwd

/-- A message of the stage about diagnostics. -/
def diagnosticsMessage (diagnostics : List Diagnostic) : Message :=
  { id := diagnosticsId, stage := stageName, text := Diagnostic.render diagnostics
    location := none }

/-- The message of the stage about a type-checker that failed. -/
def faultMessage (cause : CheckerError) : Message :=
  { id := faultId, stage := stageName
    text := s!"Declaration emission failed: {cause.message}", location := none }

/-- Call a type-checker, and record the call. -/
def callChecker (checker : TypeChecker) (plan : List Path) (options : Options) :
    Action Fault (Except CheckerError Emitted) := do
  modify fun workspace =>
    { workspace with emissions := workspace.emissions ++ [⟨checker.name, plan, options⟩] }
  Action.attempt (checker.emit plan options).confined

/-- Report what a type-checker has to say, the warnings first. -/
def reportDiagnostics (diagnostics : List Diagnostic) : Work Unit := do
  let errors := diagnostics.filter Diagnostic.isError
  let warnings := diagnostics.filter (!·.isError)
  if warnings ≠ [] then Work.pushWarning (diagnosticsMessage warnings)
  if errors ≠ [] then
    Work.log .warn logTarget s!"[fob-dts] {errors.length} type diagnostic(s)"
    Work.pushError (diagnosticsMessage errors)

/-- Have a plan emitted by a type-checker, and link it. -/
def emitPlan (checker : TypeChecker) (plan : List Path) (options : Options) : Work Unit := do
  Work.log .debug logTarget
    s!"[fob-dts] emitting {plan.length} declaration(s) with {checker.name}"
  match ← Work.onWorkspace (callChecker checker plan options) with
  | .error cause =>
    Work.log .warn logTarget s!"[fob-dts] type-checker failed: {cause.message}"
    Work.pushError (faultMessage cause)
  | .ok emitted =>
    reportDiagnostics emitted.diagnostics
    let linked ← Work.onWorkspace (link options.outDir plan)
    Work.log .info logTarget
      s!"[fob-dts] emitted declarations for {plan.length} entry point(s), linked {linked.length}"

/-- What the stage does in a context. -/
def run (emitter : Emitter) (context : Context) : Work Unit := do
  if ← Work.hasErrors then
    Work.log .debug logTarget "[fob-dts] build has errors, skipping declarations"
  else
    let directory ← Work.directoryPath
    let found ← Work.onWorkspace
      (emitter.source.load (projectRoot context directory) emitter.timeoutSecs)
    match found with
    | none =>
      Work.log .debug logTarget "[fob-dts] no type-checker available, skipping declarations"
    | some checker =>
      match context.emissionPlan directory with
      | [] => Work.log .debug logTarget "[fob-dts] no tracked entry points, skipping declarations"
      | plan => emitPlan checker plan (emitter.options context directory)

/-- The stage. -/
def stage (emitter : Emitter) : Build.Stage := ⟨stageName, emitter.run⟩

end Emitter

end BundleFinish.Declarations
