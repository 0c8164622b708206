import BundleFinish.CommandLine.Usage
import BundleFinish.Umd.GlobalName

/-! # Command lines that are not run

A command line is not run when it cannot be understood, or when it asks for help or the version. -/

namespace BundleFinish.CommandLine

/-- Why a command line is not run. -/
inductive Refusal where
  /-- A flag was given twice. -/
  | repeated (flag : Flag)
  /-- Two flags were given that exclude each other. -/
  | excluded (flag other : Flag) (given : List Parameter)
  | missingValue (parameter : Parameter)
  | badGlobalName (name : String) (cause : Umd.GlobalNameError)
  | notText
  /-- No flag has this name; there may be one with a similar name. -/
  | unknown (argument : String) (similar : Option Flag) (given : List Parameter)
  /-- A value for a flag that takes none. -/
  | unwantedValue (flag : Flag) (value : String) (given : List Parameter)
  /-- Help is asked for. -/
  | help (detailed : Bool)
  /-- The version is asked for. -/
  | version
  deriving DecidableEq, Repr

namespace Refusal

/-- What is wrong, in words, and how the program is called, where that helps. -/
def problem : Refusal → List String
  | .repeated flag => [s!"the argument '{flag.display}' cannot be used multiple times", usage []]
  | .excluded flag other given =>
    [s!"the argument '{flag.display}' cannot be used with '{other.display}'", usage given]
  | .missingValue parameter =>
    [s!"a value is required for '{parameter.display}' but none was supplied"]
  | .badGlobalName name cause =>
    [s!"invalid value '{name}' for '{Flag.globalName.display}': {cause.message}"]
  | .notText => ["invalid UTF-8 was detected in one or more arguments", usage []]
  | .unknown argument similar given =>
    [s!"unexpected argument '{argument}' found",
      match similar with
      | some flag => s!"  tip: a similar argument exists: '--{flag.longName}'"
      | none => s!"  tip: to pass '{argument}' as a value, use '-- {argument}'",
      usage given]
  | .unwantedValue flag value given =>
    [s!"unexpected value '{value}' for '{flag.display}' found; no more were expected",
      usage given]
  | .help _ | .version => []

/-- What is printed. -/
def text (refusal : Refusal) : String :=
  match refusal with
  | .help detailed => if detailed then detailedHelp else shortHelp
  | .version => s!"{programName} {programVersion}\n"
  | _ =>
    "error: " ++ "\n\n".intercalate
      (refusal.problem ++ ["For more information, try '--help'."]) ++ "\n"

/-- Whether the command line is at fault. -/
def isError : Refusal → Bool
  | .help _ | .version => false
  | _ => true

/-- The exit code. -/
def exitCode (refusal : Refusal) : Nat := if refusal.isError then 2 else 0

end Refusal

end BundleFinish.CommandLine
