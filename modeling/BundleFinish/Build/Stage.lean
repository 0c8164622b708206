import BundleFinish.Build.Message
import BundleFinish.Build.Tracked
import BundleFinish.Fault

/-! # Stages of a finished build

Stages run one after the other when a bundler has finished. They see the options of the build and
the tracked sources, change files, and report errors and warnings. A fault ends the run: what was
done and reported before it stays, and later stages do nothing. -/

namespace BundleFinish

namespace Build

/-- What the stages of one build work on. -/
structure Context where
  options : Options
  tracked : TrackedFiles

namespace Context

/-- A context in which no source was loaded yet. -/
def start (options : Options) : Context := ⟨options, .empty⟩

/-- The tracked sources that are entry points of the package, in the order of tracking. -/
def emissionPlan (context : Context) (directory : Path) : List Path :=
  let entries := context.options.resolvedEntries directory
  context.tracked.paths.filter fun path =>
    entries.any ((context.options.resolve directory path).same ·)

end Context

/-- How far a build has come. -/
structure Progress where
  workspace : Workspace
  result : Result

/-- What a stage does. -/
abbrev Work (α : Type) := ExceptT Fault (StateM Progress) α

namespace Work

/-- Act on the workspace. -/
def onWorkspace {α : Type} (action : Action Fault α) : Work α :=
  ExceptT.mk fun progress =>
    let (value, workspace) := StateT.run (ExceptT.run action) progress.workspace
    (value, { progress with workspace })

/-- Write a log line. -/
def log (level : Logging.Level) (target text : String) : Work Unit :=
  onWorkspace (Action.log level target text)

/-- Whether an error was reported. -/
def hasErrors : Work Bool := return (← get).result.hasErrors

/-- Report an error. -/
def pushError (message : Message) : Work Unit :=
  modify fun progress => { progress with result := progress.result.pushError message }

/-- Report a warning. -/
def pushWarning (message : Message) : Work Unit :=
  modify fun progress => { progress with result := progress.result.pushWarning message }

/-- The working directory of the process. -/
def directoryPath : Work Path := return (← get).workspace.directoryPath

end Work

/-- A stage: its name, and what it does in a context. -/
structure Stage where
  name : String
  run : Context → Work Unit

namespace Stage

/-- The part of the program that writes the log lines of this module. -/
def logTarget : String := "fob_postbuild::pipeline"

/-- Run stages one after the other, up to the first fault. -/
def runAll (context : Context) : List Stage → Work Unit
  | [] => return ()
  | stage :: others => do
    Work.log .debug logTarget s!"[fob-postbuild] running build-end hook {stage.name}"
    stage.run context
    runAll context others

end Stage

end Build

end BundleFinish
