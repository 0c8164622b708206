import BundleFinish.CommandLine.Run
import BundleFinish.Logging.Line

/-! # The whole program

From the arguments of a process to what it prints, how it ends, and what it leaves behind. The log
and reports go to the error stream; help and the version go to the output stream. -/

namespace BundleFinish.CommandLine

/-- What a process prints and how it ends. -/
structure Printed where
  exitCode : Nat
  stdout : String
  stderr : String
  deriving DecidableEq, Repr

/-- The width of a screen of unknown width. -/
def defaultScreenWidth : Nat := 80

/-- The part of the program that writes the last log line. -/
def programLogTarget : String := "fob_postbuild"

/-- What is printed when a command line is not run. -/
def Refusal.printed (refusal : Refusal) : Printed :=
  if refusal.isError then ⟨refusal.exitCode, "", refusal.text⟩
  else ⟨refusal.exitCode, refusal.text, ""⟩

/-- The lines of a log that are shown. -/
def printedLog (filter : Logging.Filter) (log : List LogLine) : String :=
  String.join ((log.filter fun line => filter.shows line.target line.level).map fun line =>
    Logging.printedLine line.level line.text)

/-- Execute a command line, and say in the log what it came to. -/
def executeAndSum (arguments : Arguments) : Action RunFault Outcome := do
  let outcome ← execute arguments
  Action.log .info programLogTarget
    s!"Done: {outcome.tracked} entry point(s) tracked, {outcome.warnings} warning(s)"
  return outcome

/-- What is printed for the outcome of a run. -/
def printedOutcome (outcome : Except RunFault Outcome) : Nat × String :=
  match outcome with
  | .ok _ => (0, "")
  | .error fault => (1, "Error: " ++ fault.report.render defaultScreenWidth ++ "\n")

/-- Run the program in a workspace. -/
def run (arguments : List Bytes) (workspace : Workspace) : Printed × Workspace :=
  match Arguments.parse arguments with
  | .error refusal => (refusal.printed, workspace)
  | .ok arguments =>
    let directives := (workspace.variableNamed Logging.Filter.variableName).getD ""
    let (filter, ignored) := Logging.Filter.ofText arguments.verbosity directives
    let (outcome, after) := StateT.run (ExceptT.run (executeAndSum arguments)) workspace
    let (exitCode, report) := printedOutcome outcome
    let complaints := String.join (ignored.map fun piece => piece.line ++ "\n")
    (⟨exitCode, "", complaints ++ printedLog filter after.log ++ report⟩, after)

end BundleFinish.CommandLine
