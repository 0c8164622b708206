import BundleFinish.Declarations.Checker
import BundleFinish.Diagnostic.Output
import BundleFinish.Diagnostic.Sources
import BundleFinish.Workspace.Process

/-! # The installed compiler

The compiler `tsc` is a type-checker that runs as a program of its own. It is looked up in the
directories of installed packages, from a project upwards, and then by the program that looks up
others. -/

namespace BundleFinish.Declarations

/-- The compiler at a path, as it is used for one project. -/
structure Compiler where
  program : Path
  projectRoot : Path
  /-- How long a run may take, in seconds. -/
  timeoutSecs : Nat
  deriving DecidableEq, Repr

namespace Compiler

/-- The file name of the compiler. -/
def programName : String := "tsc"

/-- The part of the program that writes the log lines of this module. -/
def logTarget : String := "fob_postbuild::dts::tsc"

/-- Where the compiler stands when it is installed in a directory. -/
def installedIn (directory : Path) : Path :=
  ((directory.joinText "node_modules").joinText ".bin").joinText programName

/-- The installed compiler that is nearest to a project: in its directory or one above it. -/
def nearest? (workspace : Workspace) (projectRoot : Path) : Option Path :=
  (projectRoot.ancestors.map installedIn).find? workspace.exists?

/-- The path in what the program that looks up others printed: its first line that is not blank. -/
def answeredPath? (output : Bytes) : Option Path := do
  let text ← Utf8.decode? output
  let line ← ((Text.lines text.toList).map Text.trimChars).find? (· ≠ [])
  return .ofString (String.ofList line)

/-- Ask the program that looks up others for the compiler. The answer is waited for without a limit;
where there never is one, none stands for it. -/
def lookUp {ε : Type} : Action ε (Option Path) := do
  -- That it cannot be started is no failure here: then nothing is known about the compiler.
  match ← Action.attempt (Action.executeHere (.ofString Workspace.finderName) [programName]) with
  | .ok (some execution) =>
    return if execution.ending.isSuccess then answeredPath? execution.stdout else none
  | .ok none | .error _ => return none

/-- Find the compiler for a project: the nearest installed one, and where there is none, the one
that the program that looks up others knows. -/
def locate {ε : Type} (projectRoot : Path) : Action ε (Option Path) := do
  match nearest? (← get) projectRoot with
  | some path => return some path
  | none => lookUp

/-- What a run printed, in words for an error. -/
def printed (stdout : String) (stderr : Bytes) : String :=
  Text.trim (stdout ++ Utf8.decodeLossy stderr)

/-- The diagnostics in the output of a finished run. -/
def diagnosticsOf (execution : Execution) : Except CheckerError (List Diagnostic) := do
  let stdout ← (Utf8.decode execution.stdout).mapError .notText
  let diagnostics := Diagnostic.parse stdout
  if !execution.ending.isSuccess ∧ diagnostics = [] then
    throw (.silentExit execution.ending.reportedCode (printed stdout execution.stderr))
  return diagnostics

/-- Emit declarations: one run of the compiler in the project's directory. -/
def emit (compiler : Compiler) (files : List Path) (options : Options) :
    Action CheckerError Emitted := do
  let arguments := options.arguments files
  let words := " ".intercalate arguments
  Action.log .debug logTarget s!"[fob-dts] {compiler.program.display} {words}"
  let finished ← (Action.execute compiler.timeoutSecs compiler.program
    compiler.projectRoot arguments).mapError .notStarted
  match finished with
  | none => throw (.timedOut compiler.timeoutSecs)
  | some execution =>
    match diagnosticsOf execution with
    | .error cause => throw cause
    | .ok diagnostics =>
      return { diagnostics := Diagnostic.attachSources (← get) compiler.projectRoot diagnostics
               files := files.map options.declarationPath }

/-- The compiler as a type-checker. -/
def checker (compiler : Compiler) : TypeChecker := ⟨programName, compiler.emit⟩

end Compiler

end BundleFinish.Declarations
