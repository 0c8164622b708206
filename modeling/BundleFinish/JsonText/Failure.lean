import BundleFinish.Text.Quoted
import BundleFinish.Text.Utf8
import BundleFinish.Value.Shape

/-! # Why a JSON text is not read

A text may break the grammar, or hold another value than the one that was asked for. Either way the
failure has a line, counted from one, and a column, the number of octets of that line that were taken
up. -/

namespace BundleFinish.JsonText

/-- The cause of a failure. -/
inductive Cause where
  | endInValue
  | endInObject
  | endInList
  | endInString
  | expectedValue
  | expectedWord
  | expectedColon
  | expectedListEnd
  | expectedObjectEnd
  | keyNotString
  | trailingComma
  | trailingCharacters
  | badEscape
  | badNumber
  | numberTooLarge
  | controlCharacter
  | loneSurrogate
  | unfinishedSurrogate
  | tooDeep
  /-- A value of another kind. -/
  | mismatch (found : Shape) (expected : String)
  /-- A value of the right kind that is out of range. -/
  | badValue (found : Shape) (expected : String)
  /-- A list with too few items for a record. -/
  | wrongLength (found : Nat) (expected : String)
  | missingField (name : String)
  | duplicateField (name : String)
  | unknownVariant (name : String) (known : List String)
  deriving DecidableEq, Repr

/-- A shape in the words of messages about JSON. -/
def shapeWords : Shape → String
  | .unit => "null"
  | .bool value => s!"boolean `{value}`"
  | .unsigned value => s!"integer `{value}`"
  | .signed value => s!"integer `{value}`"
  | .real value => s!"floating point `{value.compact}`"
  | .infinite negative => if negative then "floating point `-inf`" else "floating point `inf`"
  | .text value => "string " ++ Text.quoted value
  | .sequence => "sequence"
  | .map => "map"

/-- Names between backquotes. -/
def backquoted (name : String) : String := s!"`{name}`"

/-- What is known instead of an unknown name. -/
def expectedNames : List String → String
  | [] => "there are no variants"
  | [one] => "expected " ++ backquoted one
  | [one, two] => "expected " ++ backquoted one ++ " or " ++ backquoted two
  | names => "expected one of " ++ ", ".intercalate (names.map backquoted)

namespace Cause

/-- The words for a cause. -/
def message : Cause → String
  | .endInValue => "EOF while parsing a value"
  | .endInObject => "EOF while parsing an object"
  | .endInList => "EOF while parsing a list"
  | .endInString => "EOF while parsing a string"
  | .expectedValue => "expected value"
  | .expectedWord => "expected ident"
  | .expectedColon => "expected `:`"
  | .expectedListEnd => "expected `,` or `]`"
  | .expectedObjectEnd => "expected `,` or `\x7d`"
  | .keyNotString => "key must be a string"
  | .trailingComma => "trailing comma"
  | .trailingCharacters => "trailing characters"
  | .badEscape => "invalid escape"
  | .badNumber => "invalid number"
  | .numberTooLarge => "number out of range"
  | .controlCharacter => "control character (\\u0000-\\u001F) found while parsing a string"
  | .loneSurrogate => "lone leading surrogate in hex escape"
  | .unfinishedSurrogate => "unexpected end of hex escape"
  | .tooDeep => "recursion limit exceeded"
  | .mismatch found expected => s!"invalid type: {shapeWords found}, expected {expected}"
  | .badValue found expected => s!"invalid value: {shapeWords found}, expected {expected}"
  | .wrongLength found expected => s!"invalid length {found}, expected {expected}"
  | .missingField name => s!"missing field `{name}`"
  | .duplicateField name => s!"duplicate field `{name}`"
  | .unknownVariant name known => s!"unknown variant `{name}`, {expectedNames known}"

end Cause

/-- A failure at its place. -/
structure Failure where
  cause : Cause
  line : Nat
  column : Nat
  deriving DecidableEq, Repr

/-- The words for a failure. -/
def Failure.message (failure : Failure) : String :=
  s!"{failure.cause.message} at line {failure.line} column {failure.column}"

end BundleFinish.JsonText
