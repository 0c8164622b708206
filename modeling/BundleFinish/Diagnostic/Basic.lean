import BundleFinish.Text.Blank
import BundleFinish.Text.Letter
import BundleFinish.Text.Utf8

/-! # Diagnostics

A diagnostic is what a type-checker has to say about a program: its severity, a code, a message and
a place. Once the source text is attached, the place becomes a label, a range of octets in that
text. -/

namespace BundleFinish

/-- How grave a diagnostic is. -/
inductive Severity where
  | error
  | warning
  deriving DecidableEq, Repr

/-- A range of octets in a source text. -/
structure Span where
  offset : Nat
  length : Nat
  deriving DecidableEq, Repr

/-- The text that a diagnostic is about, under the name it is reported with. -/
structure Source where
  name : String
  text : String
  deriving DecidableEq, Repr

/-- One report of a type-checker. -/
structure Diagnostic where
  severity : Severity
  code : Option String
  message : String
  file : Option String
  /-- Counted from one. -/
  line : Option Nat
  /-- Counted from one. -/
  column : Option Nat
  /-- A place given by the type-checker itself. -/
  span : Option Span
  source : Option Source
  /-- The place in the attached source. -/
  place : Option Span
  deriving DecidableEq, Repr

namespace Diagnostic

/-- An error with nothing but a message. -/
def error (message : String) : Diagnostic :=
  { severity := .error, code := none, message, file := none, line := none, column := none
    span := none, source := none, place := none }

/-- Give a diagnostic a place in a file. -/
def locatedAt (diagnostic : Diagnostic) (file : String) (line column : Nat) : Diagnostic :=
  { diagnostic with file := some file, line := some line, column := some column }

/-- Whether a diagnostic is an error. -/
def isError (diagnostic : Diagnostic) : Bool := diagnostic.severity == .error

end Diagnostic

/-! ## Places in a source text -/

/-- A line without the newlines and carriage returns at its end. -/
def lineContent (line : List Char) : List Char :=
  (line.reverse.dropWhile fun c => c == '\n' || c == '\r').reverse

/-- The octet offset of a line and a column, both counted from one, among lines of which the first
starts at `offset`. Columns count characters; one past the end of the line stands for its end. -/
def offsetInLines (offset : Nat) : List (List Char) → Nat → Nat → Option Nat
  | [], _, _ => none
  | _ :: _, 0, _ => none
  | line :: _, 1, column => some (offset + Utf8.octetLength ((lineContent line).take (column - 1)))
  | line :: others, number + 2, column =>
    offsetInLines (offset + Utf8.octetLength line) others (number + 1) column

/-- The octet offset of a line and a column, both counted from one. -/
def lineColumnToOffset (source : String) (line column : Nat) : Option Nat :=
  offsetInLines 0 (Text.splitInclusive source.toList) line column

/-- The characters from an octet offset on; none when the offset is not at a character. -/
def dropOctets? : Nat → List Char → Option (List Char)
  | 0, text => some text
  | _ + 1, [] => none
  | offset + 1, c :: rest =>
    if c.utf8Size ≤ offset + 1 then dropOctets? (offset + 1 - c.utf8Size) rest else none

/-- The length in octets of the identifier at an offset, and at least one. -/
def tokenLength (source : List Char) (offset : Nat) : Nat :=
  match dropOctets? offset source with
  | some rest => max 1 (Utf8.octetLength (rest.takeWhile Text.isIdentifierPart))
  | none => 1

namespace Diagnostic

/-- The place of a diagnostic in a source text: the place that the type-checker gave, where it lies
in the text, and else the identifier at its line and column. -/
def placeIn? (diagnostic : Diagnostic) (text : String) : Option Span :=
  let byLine := do
    let line ← diagnostic.line
    let column ← diagnostic.column
    let offset ← lineColumnToOffset text line column
    return { offset, length := tokenLength text.toList offset }
  match diagnostic.span with
  | some span =>
    if span.offset ≤ text.utf8ByteSize then some { span with length := max 1 span.length }
    else byLine
  | none => byLine

/-- Attach the source text and find the place in it. -/
def withSource (diagnostic : Diagnostic) (text : String) : Diagnostic :=
  { diagnostic with
    place := diagnostic.placeIn? text
    source := some { name := diagnostic.file.getD "", text } }

/-- What a place in the source is labelled with: file, line and column where all are known. -/
def labelText (diagnostic : Diagnostic) : String :=
  match diagnostic.file, diagnostic.line, diagnostic.column with
  | some file, some line, some column => s!"{file}:{line}:{column}"
  | _, _, _ => "here"

end Diagnostic

end BundleFinish
