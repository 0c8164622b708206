import BundleFinish.CommandLine.Fault
import BundleFinish.CommandLine.Layers
import BundleFinish.Configuration.Description
import BundleFinish.Configuration.Stages

/-! # One run for a finished build

A command line stands in for a bundler: it reports the entry points as loaded, and then has the
stages run once. Everything that can be checked is checked before the first stage runs. -/

namespace BundleFinish.CommandLine

open Build (Context Stage Tracker TrackedFiles)

/-- What a run without a fault comes to. -/
structure Outcome where
  /-- The number of tracked sources. -/
  tracked : Nat
  /-- The number of warnings. -/
  warnings : Nat
  deriving DecidableEq, Repr

/-- The part of the program that writes the log lines of this module. -/
def runLogTarget : String := "fob_postbuild_cli::run"

/-- The working directory of a command line, for a process that works in a directory. -/
def workingDirectory (arguments : Arguments) (directory : Path) : Path :=
  match arguments.cwd with
  | some path => directory.join path
  | none => directory

/-- Check that a named settings file exists. -/
def checkConfig (arguments : Arguments) (cwd : Path) (workspace : Workspace) :
    Except RunFault Unit :=
  match arguments.config with
  | some path =>
    if workspace.isFile (cwd.join path) then .ok () else .error (.configNotFound (cwd.join path))
  | none => .ok ()

/-- Load the configuration for a command line. -/
def loadConfiguration (arguments : Arguments) (cwd : Path) (workspace : Workspace) :
    Except RunFault Configuration := do
  checkConfig arguments cwd workspace
  (Configuration.load (layers arguments cwd workspace)).mapError .fault

/-- Report entry points as loaded, up to the first that does not exist. -/
def loadEntries (tracker : Tracker) (tracked : TrackedFiles) :
    List Path → Action RunFault TrackedFiles
  | [] => return tracked
  | entry :: others => do
    if !(← get).exists? entry then throw (.entryNotFound entry)
    let loading := tracker.load tracked entry
    modify fun workspace => { workspace with log := workspace.log ++ loading.log }
    loadEntries tracker loading.tracked others

/-- Have the stages run, and give what they reported. -/
def runStages (context : Context) (stages : List Stage) : Action RunFault Build.Result :=
  ExceptT.mk fun workspace =>
    let (outcome, progress) :=
      StateT.run (ExceptT.run (Stage.runAll context stages)) ⟨workspace, .empty⟩
    ((outcome.map fun _ => progress.result).mapError .fault, progress.workspace)

/-- Write what was reported into the log, the warnings first. -/
def logResult (result : Build.Result) : Action RunFault Unit := do
  result.warnings.forM fun warning => Action.log .warn runLogTarget warning.display
  result.errors.forM fun error => Action.log .error runLogTarget error.display

/-- Lift a check into an action. -/
def checked {α : Type} (outcome : Except RunFault α) : Action RunFault α :=
  match outcome with
  | .ok value => return value
  | .error fault => throw fault

/-- Check everything that can be checked, report the entry points as loaded, and give what the stages
are to work on, and the stages. -/
def prepare (arguments : Arguments) : Action RunFault (Context × List Stage) := do
  let cwd := workingDirectory arguments (← Action.currentDirectory.mapError .noDirectory)
  let configuration ← checked (loadConfiguration arguments cwd (← get))
  let options := configuration.buildOptions cwd
  Action.log .debug runLogTarget s!"Resolved configuration: {configuration.describe}"
  let tracker ← checked (configuration.tracker.mapError fun cause => .fault (.misconfigured cause))
  let directory := (← get).directoryPath
  let tracked ← loadEntries tracker .empty (options.resolvedEntries directory)
  let stages := configuration.stages
  let output := (options.resolvedOutDir directory).display
  Action.log .info runLogTarget s!"Running {stages.length} post-build stage(s) on {output}"
  return (⟨options, tracked⟩, stages)

/-- Run the stages for a command line. -/
def execute (arguments : Arguments) : Action RunFault Outcome := do
  let (context, stages) ← prepare arguments
  -- A fault of a stage ends the run here, before the log gets what was reported.
  let result ← runStages context stages
  logResult result
  if result.hasErrors then throw (.errorsReported result.errors.length)
  return { tracked := context.tracked.paths.length, warnings := result.warnings.length }

end BundleFinish.CommandLine
