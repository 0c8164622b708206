import BundleFinish.Fault
import BundleFinish.Report.Basic

/-! # Faults of a run

What ends a run of the program without success. -/

namespace BundleFinish.CommandLine

/-- What ends a run without success. -/
inductive RunFault where
  /-- A fault of the configuration or of a stage. -/
  | fault (cause : Fault)
  /-- The working directory is unknown. -/
  | noDirectory (cause : IoError)
  /-- The named settings file does not exist. -/
  | configNotFound (path : Path)
  /-- An entry point does not exist. -/
  | entryNotFound (path : Path)
  /-- Stages reported errors. -/
  | errorsReported (count : Nat)
  deriving DecidableEq, Repr

namespace RunFault

/-- The words for a fault. -/
def message : RunFault → String
  | .fault cause => cause.message
  | .noDirectory cause => s!"Cannot determine working directory: {cause.message}"
  | .configNotFound path => s!"Configuration file not found: {path.display}"
  | .entryNotFound path => s!"Entry point not found: {path.display}"
  | .errorsReported count => s!"Post-build failed with {count} error(s)"

/-- The name of the kind of a fault. -/
def code : RunFault → String
  | .fault cause => cause.code
  | .noDirectory _ => "fob::cli::cwd"
  | .configNotFound _ => "fob::cli::config_not_found"
  | .entryNotFound _ => "fob::cli::entry_not_found"
  | .errorsReported _ => "fob::cli::build_failed"

/-- What to do about a fault. -/
def help : RunFault → Option String
  | .fault cause => some cause.help
  | .entryNotFound _ =>
    some "Entry points are resolved against the working directory (see --cwd)"
  | .noDirectory _ | .configNotFound _ | .errorsReported _ => none

/-- The words for what is behind a fault. -/
def causes : RunFault → List String
  | .fault cause => cause.causes
  | .noDirectory cause => [cause.message]
  | .configNotFound _ | .entryNotFound _ | .errorsReported _ => []

/-- The report of a fault. -/
def report (fault : RunFault) : Report :=
  { severity := .error
    code := some fault.code
    message := fault.message
    causes := fault.causes
    place := none
    help := fault.help }

end RunFault

end BundleFinish.CommandLine
