import BundleFinish.Declarations.Options
import BundleFinish.Diagnostic.Basic
import BundleFinish.Text.Utf8
import BundleFinish.Workspace

/-! # Type-checkers

A type-checker writes declarations for given sources and reports diagnostics. It fails only where it
cannot do its work to the end. -/

namespace BundleFinish.Declarations

/-- Why a type-checker could not do its work to the end. -/
inductive CheckerError where
  | notFound (program : Path)
  | notStarted (cause : IoError)
  | timedOut (seconds : Nat)
  /-- It ended without success and without a diagnostic. -/
  | silentExit (code : Int) (output : String)
  | notText (cause : Utf8.DecodeError)
  | io (path : Path) (cause : IoError)
  deriving DecidableEq, Repr

namespace CheckerError

/-- The words for an error. -/
def message : CheckerError → String
  | .notFound program => s!"Type-checker executable not found: {program.display}"
  | .notStarted cause => s!"Failed to spawn type-checker process: {cause.message}"
  | .timedOut seconds => s!"Type-checker timed out after {seconds} seconds"
  | .silentExit code _ =>
    s!"Type-checker exited with code {code} without reporting diagnostics"
  | .notText cause => s!"Type-checker produced invalid output: {cause.message}"
  | .io path cause => s!"I/O error on {path.display}: {cause.message}"

/-- The name of the kind of an error. -/
def code : CheckerError → String
  | .notFound _ => "fob::dts::checker_not_found"
  | .notStarted _ => "fob::dts::spawn_failed"
  | .timedOut _ => "fob::dts::timeout"
  | .silentExit .. => "fob::dts::exit_error"
  | .notText _ => "fob::dts::invalid_output"
  | .io .. => "fob::dts::io"

/-- What to do about an error. For a silent exit it is what the type-checker printed. -/
def help : CheckerError → Option String
  | .notFound _ => some "Install TypeScript: npm install -D typescript"
  | .timedOut _ => some "Increase dts.timeout_secs or reduce the number of entry points"
  | .silentExit _ output => some output
  | .notStarted _ | .notText _ | .io .. => none

end CheckerError

/-- What a type-checker has to say after its work. -/
structure Emitted where
  diagnostics : List Diagnostic
  /-- The declaration files that it says it wrote. -/
  files : List Path
  deriving DecidableEq, Repr

/-- A type-checker: a name, and what it does for given sources. -/
structure TypeChecker where
  name : String
  emit : List Path → Options → Action CheckerError Emitted

end BundleFinish.Declarations
