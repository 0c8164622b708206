/-! # Log levels

How grave a log line is, and how much of the log is shown. -/

namespace BundleFinish.Logging

/-- How grave a log line is. -/
inductive Level where
  | error
  | warn
  | info
  | debug
  | trace
  deriving DecidableEq, Repr

namespace Level

/-- The word for a level in a log line. -/
def word : Level → String
  | .error => "ERROR"
  | .warn => "WARN"
  | .info => "INFO"
  | .debug => "DEBUG"
  | .trace => "TRACE"

/-- The place of a level, the gravest first. -/
def rank : Level → Nat
  | .error => 1
  | .warn => 2
  | .info => 3
  | .debug => 4
  | .trace => 5

end Level

/-- How much is shown: nothing, or everything down to a level. -/
inductive Verbosity where
  | silent
  | upTo (level : Level)
  deriving DecidableEq, Repr

namespace Verbosity

/-- Whether a line of a level is shown. -/
def shows : Verbosity → Level → Bool
  | .silent, _ => false
  | .upTo most, level => level.rank ≤ most.rank

/-- The name of a verbosity. -/
def name : Verbosity → String
  | .silent => "off"
  | .upTo .error => "error"
  | .upTo .warn => "warn"
  | .upTo .info => "info"
  | .upTo .debug => "debug"
  | .upTo .trace => "trace"

/-- The verbosity with a name, in any case of ASCII letters; some names have a second form. -/
def ofName (text : String) : Except String Verbosity :=
  let lower := String.ofList (text.toList.map Char.toLower)
  match lower with
  | "silent" | "off" | "none" => .ok .silent
  | "error" => .ok (.upTo .error)
  | "warn" | "warning" => .ok (.upTo .warn)
  | "info" => .ok (.upTo .info)
  | "debug" => .ok (.upTo .debug)
  | "trace" => .ok (.upTo .trace)
  | _ => .error s!"unknown log level '{lower}'"

end Verbosity

end BundleFinish.Logging
