import BundleFinish.Pattern.Meaning
import BundleFinish.Pattern.Space

/-! # Compiled patterns

A pattern is compiled once, which may fail, and then tells texts that have a match from those that
have none. A pattern that takes too much space is refused. -/

namespace BundleFinish.Pattern

/-- Why a pattern is not compiled. -/
inductive CompileError where
  | fault (found : Fault) (pattern : String)
  | tooLarge
  deriving DecidableEq, Repr

/-- The space that a pattern may take, in octets. -/
def spaceLimit : Nat := 10485760

/-- The words for a refusal. -/
def CompileError.message : CompileError → String
  | .fault found pattern => found.message pattern
  | .tooLarge => s!"Compiled regex exceeds size limit of {spaceLimit} bytes."

/-- A pattern ready for use, with its text. -/
structure Compiled where
  pattern : String
  regex : Regex

/-- Compile a pattern. -/
def compile (pattern : String) : Except CompileError Compiled :=
  match parse pattern with
  | .error fault => .error (.fault fault pattern)
  | .ok expression =>
    match expression.meaning .initial with
    | .error fault => .error (.fault fault pattern)
    | .ok (regex, _) =>
      if spaceLimit < regex.space then .error .tooLarge
      else .ok { pattern, regex }

/-- Whether a text has a match. -/
def Compiled.isMatch (compiled : Compiled) (text : String) : Bool :=
  compiled.regex.matchesIn text.toList

end BundleFinish.Pattern
