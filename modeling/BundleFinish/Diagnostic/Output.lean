import BundleFinish.Diagnostic.Basic
import BundleFinish.Text.Digit

/-! # Reading the output of a type-checker

A line `file(line,column): severity code: message` or `severity code: message` starts a diagnostic.
Any other line that is not blank continues the message of the diagnostic before it, and where there
is none it is an error by itself. -/

namespace BundleFinish.Diagnostic

open Text

/-- The rest of a text after what it has to start with. -/
def after? (start text : List Char) : Option (List Char) :=
  if start.isPrefixOf text then some (text.drop start.length) else none

/-- The digits at the front of a text, at least one, and the rest. -/
def digits? (text : List Char) : Option (List Char × List Char) :=
  match text.takeWhile isDecimalDigit with
  | [] => none
  | digits => some (digits, text.dropWhile isDecimalDigit)

/-- The severity at the front of a text, and the rest. -/
def severity? (text : List Char) : Option (Severity × List Char) :=
  match after? "error".toList text with
  | some rest => some (.error, rest)
  | none => (after? "warning".toList text).map fun rest => (.warning, rest)

/-- What every first line of a diagnostic ends with. -/
structure Headline where
  severity : Severity
  code : List Char
  message : List Char
  deriving DecidableEq, Repr

/-- Read `severity code: message`, where a code is `TS` and digits. -/
def headline? (text : List Char) : Option Headline := do
  let (severity, text) ← severity? text
  let text ← after? " TS".toList text
  let (digits, text) ← digits? text
  let message ← after? ": ".toList text
  return { severity, code := 'T' :: 'S' :: digits, message }

/-- A place in a file, with the digits as they were printed. -/
structure Position where
  line : List Char
  column : List Char
  deriving DecidableEq, Repr

/-- Read `(line,column): ` and the headline behind it. -/
def position? (text : List Char) : Option (Position × Headline) := do
  let text ← after? ['('] text
  let (line, text) ← digits? text
  let text ← after? [','] text
  let (column, text) ← digits? text
  let text ← after? "): ".toList text
  let headline ← headline? text
  return ({ line, column }, headline)

/-- Find the first place behind at least one character where a position and a headline stand; the
characters before it, `before` backwards, are the file name. -/
def locatedFrom? (before : List Char) : List Char →
    Option (List Char × Position × Headline)
  | [] => none
  | c :: rest =>
    match (if before = [] then none else position? (c :: rest)) with
    | some (position, headline) => some (before.reverse, position, headline)
    | none => locatedFrom? (c :: before) rest

/-- Read `file(line,column): severity code: message`; the file name is as short as can be. -/
def located? (line : List Char) : Option (List Char × Position × Headline) :=
  locatedFrom? [] line

/-- The largest line or column number; what is larger is unknown and reported as zero. -/
def maxNumber : Nat := 4294967295

/-- The number that printed digits stand for, zero when they name none. -/
def number (digits : List Char) : Nat := (boundedNumber? maxNumber digits).getD 0

/-- A diagnostic with the severity, code and message of a headline. -/
def ofHeadline (headline : Headline) : Diagnostic :=
  { error (String.ofList headline.message) with
    severity := headline.severity
    code := some (String.ofList headline.code) }

/-- The diagnostic that a line starts, where it starts one. -/
def ofLine? (line : List Char) : Option Diagnostic :=
  match located? line with
  | some (file, position, headline) =>
    some ((ofHeadline headline).locatedAt (String.ofList file) (number position.line)
      (number position.column))
  | none => (headline? line).map ofHeadline

/-- Add a line to the message of a diagnostic. -/
def addLine (diagnostic : Diagnostic) (line : List Char) : Diagnostic :=
  { diagnostic with message := diagnostic.message ++ "\n" ++ String.ofList line }

/-- Take one line into the diagnostics read so far, the last one first. -/
def readLine (seen : List Diagnostic) (line : List Char) : List Diagnostic :=
  if isBlankText line then seen
  else
    match ofLine? line, seen with
    | some diagnostic, _ => diagnostic :: seen
    | none, last :: before => last.addLine line :: before
    | none, [] => [error (String.ofList (trimChars line))]

/-- Read the diagnostics in the output of a type-checker. -/
def parse (output : String) : List Diagnostic :=
  ((lines output.toList).foldl readLine []).reverse

end BundleFinish.Diagnostic
