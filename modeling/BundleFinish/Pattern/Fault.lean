/-! # Faults of patterns

Where and why a pattern is refused, and how that is shown: the pattern with carets under the places at
fault. A pattern of several lines is shown with line numbers between rules. -/

namespace BundleFinish.Pattern

/-- A place in a pattern; lines and columns are counted from one. -/
structure Mark where
  offset : Nat
  line : Nat
  column : Nat
  deriving DecidableEq, Repr

namespace Mark

/-- The start of a pattern. -/
def start : Mark := ⟨0, 1, 1⟩

/-- The place behind a character. -/
def after (mark : Mark) (c : Char) : Mark :=
  if c = '\n' then ⟨mark.offset + 1, mark.line + 1, 1⟩
  else ⟨mark.offset + 1, mark.line, mark.column + 1⟩

end Mark

/-- A part of a pattern. -/
structure Range where
  first : Mark
  last : Mark
  deriving DecidableEq, Repr

/-- Why a pattern is refused. -/
inductive Cause where
  | classEscapeInvalid
  | classRangeInvalid
  | classRangeLiteral
  | classUnclosed
  | decimalInvalid
  | escapeHexEmpty
  | escapeHexInvalid
  | escapeHexInvalidDigit
  | escapeUnexpectedEnd
  | escapeUnrecognized
  | flagDanglingNegation
  | flagDuplicate (earlier : Range)
  | flagRepeatedNegation (earlier : Range)
  | flagUnexpectedEnd
  | flagUnrecognized
  | groupNameDuplicate (earlier : Range)
  | groupNameEmpty
  | groupNameInvalid
  | groupNameUnexpectedEnd
  | groupUnclosed
  | groupUnopened
  | nestedTooDeep (limit : Nat)
  | repetitionCountInvalid
  | repetitionCountEmpty
  | repetitionCountUnclosed
  | repetitionMissing
  | wordBoundaryUnclosed
  | wordBoundaryUnrecognized
  | wordBoundaryUnexpectedEnd
  | propertyInvalid
  | backreference
  | lookAround
  | unicodeNotAllowed
  | matchesBrokenText
  | propertyNotFound
  | propertyValueNotFound
  deriving DecidableEq, Repr

namespace Cause

/-- The words for a cause. -/
def message : Cause → String
  | .classEscapeInvalid => "invalid escape sequence found in character class"
  | .classRangeInvalid => "invalid character class range, the start must be <= the end"
  | .classRangeLiteral => "invalid range boundary, must be a literal"
  | .classUnclosed => "unclosed character class"
  | .decimalInvalid => "decimal literal invalid"
  | .escapeHexEmpty => "hexadecimal literal empty"
  | .escapeHexInvalid => "hexadecimal literal is not a Unicode scalar value"
  | .escapeHexInvalidDigit => "invalid hexadecimal digit"
  | .escapeUnexpectedEnd =>
    "incomplete escape sequence, reached end of pattern prematurely"
  | .escapeUnrecognized => "unrecognized escape sequence"
  | .flagDanglingNegation => "dangling flag negation operator"
  | .flagDuplicate _ => "duplicate flag"
  | .flagRepeatedNegation _ => "flag negation operator repeated"
  | .flagUnexpectedEnd => "expected flag but got end of regex"
  | .flagUnrecognized => "unrecognized flag"
  | .groupNameDuplicate _ => "duplicate capture group name"
  | .groupNameEmpty => "empty capture group name"
  | .groupNameInvalid => "invalid capture group character"
  | .groupNameUnexpectedEnd => "unclosed capture group name"
  | .groupUnclosed => "unclosed group"
  | .groupUnopened => "unopened group"
  | .nestedTooDeep limit =>
    s!"exceed the maximum number of nested parentheses/brackets ({limit})"
  | .repetitionCountInvalid =>
    "invalid repetition count range, the start must be <= the end"
  | .repetitionCountEmpty => "repetition quantifier expects a valid decimal"
  | .repetitionCountUnclosed => "unclosed counted repetition"
  | .repetitionMissing => "repetition operator missing expression"
  | .wordBoundaryUnclosed =>
    "special word boundary assertion is either unclosed or contains an invalid character"
  | .wordBoundaryUnrecognized =>
    "unrecognized special word boundary assertion, valid choices are: "
      ++ "start, end, start-half or end-half"
  | .wordBoundaryUnexpectedEnd =>
    "found either the beginning of a special word boundary or a bounded repetition on a \\b "
      ++ "with an opening brace, but no closing brace"
  | .propertyInvalid => "invalid Unicode character class"
  | .backreference => "backreferences are not supported"
  | .lookAround =>
    "look-around, including look-ahead and look-behind, is not supported"
  | .unicodeNotAllowed => "Unicode not allowed here"
  | .matchesBrokenText => "pattern can match invalid UTF-8"
  | .propertyNotFound => "Unicode property not found"
  | .propertyValueNotFound => "Unicode property value not found"

/-- The earlier place that a cause is also about. -/
def earlier? : Cause → Option Range
  | .flagDuplicate earlier => some earlier
  | .flagRepeatedNegation earlier => some earlier
  | .groupNameDuplicate earlier => some earlier
  | _ => none

end Cause

/-- A refused pattern: the cause and the part at fault. -/
structure Fault where
  cause : Cause
  range : Range
  deriving DecidableEq, Repr

/-! ## Showing a fault -/

/-- The lines of a pattern, without newlines or a carriage return before one. -/
def patternLines (pattern : List Char) : List (List Char) :=
  let rec go (line : List Char) : List Char → List (List Char)
    | [] => if line = [] then [] else [line.reverse]
    | c :: rest =>
      if c = '\n' then
        (match line with
          | '\r' :: before => before.reverse
          | _ => line.reverse) :: go [] rest
      else go (c :: line) rest
  go [] pattern

/-- Carets under some ranges of one line, from `position` characters on. -/
def carets (position : Nat) : List Range → List Char
  | [] => []
  | range :: others =>
    let blanks := range.first.column - 1 - position
    let width := max 1 (range.last.column - range.first.column)
    List.replicate blanks ' ' ++ List.replicate width '^'
      ++ carets (position + blanks + width) others

/-- Whether a range starts before another one, or at the same place and ends no later. -/
def Range.le (a b : Range) : Bool :=
  if a.first.offset = b.first.offset then a.last.offset ≤ b.last.offset
  else a.first.offset < b.first.offset

/-- A number in front of a line, as wide as the widest one. -/
def lineNumber (width number : Nat) : String :=
  let digits := toString number
  String.ofList (List.replicate (width - digits.length) ' ') ++ digits

/-- The lines of a pattern, numbered where `width` is not zero, with carets under the ranges. -/
def annotate (width : Nat) (ranges : List Range) (number : Nat) :
    List (List Char) → String
  | [] => ""
  | line :: others =>
    let start := if width = 0 then "    " else lineNumber width number ++ ": "
    let here := ranges.filter fun range => range.first.line == number
    let notes :=
      if here.isEmpty then ""
      else
        String.ofList (List.replicate (if width = 0 then 4 else 2 + width) ' '
          ++ carets 0 here) ++ "\n"
    start ++ String.ofList line ++ "\n" ++ notes ++ annotate width ranges (number + 1) others

/-- A range of several lines in words. -/
def Range.words (range : Range) : String :=
  s!"on line {range.first.line} (column {range.first.column}) " ++
    s!"through line {range.last.line} (column {range.last.column - 1})"

/-- Show a fault of a pattern. -/
def Fault.message (fault : Fault) (pattern : String) : String :=
  let chars := pattern.toList
  let lines := patternLines chars
  let ranges := (fault.range :: fault.cause.earlier?.toList).mergeSort Range.le
  let short := ranges.filter fun range => range.first.line == range.last.line
  let long := ranges.filter fun range => range.first.line != range.last.line
  let count := lines.length + if chars.getLast? = some '\n' then 1 else 0
  let width := if count ≤ 1 then 0 else (toString count).length
  let shown := annotate width short 1 lines
  let body :=
    if chars.contains '\n' then
      let rule := String.ofList (List.replicate 79 '~') ++ "\n"
      let notes := if long.isEmpty then "" else "\n".intercalate (long.map Range.words) ++ "\n"
      rule ++ shown ++ rule ++ notes
    else shown
  "regex parse error:\n" ++ body ++ "error: " ++ fault.cause.message

end BundleFinish.Pattern
