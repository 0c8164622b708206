import BundleFinish.Pattern.Scan
import BundleFinish.Text.Digit

/-! # Escapes and single characters of patterns

What a backslash introduces: characters by their code, properties, shorthands and assertions. -/

namespace BundleFinish.Pattern.Scan

/-- Characters with a meaning of their own in patterns. -/
def isMeta (c : Char) : Bool :=
  ['\\', '.', '+', '*', '?', '(', ')', '|', '[', ']', '\x7b', '\x7d', '^', '$', '#', '&', '-',
    '~'].contains c

/-- Characters that stand for themselves behind a backslash. -/
def isEscapable (c : Char) : Bool :=
  isMeta c || (c.toNat < 128 && !c.isAlphanum && c != '<' && c != '>')

/-- The value of a hexadecimal digit. -/
def hexValue? (c : Char) : Option Nat :=
  if c.isDigit then some (c.toNat - 48)
  else if 'a' ≤ c ∧ c ≤ 'f' then some (c.toNat - 87)
  else if 'A' ≤ c ∧ c ≤ 'F' then some (c.toNat - 55)
  else none

/-- The character with a code given by hexadecimal digits. -/
def charOfHex? (digits : List Char) : Option Char :=
  let code := digits.foldl (fun code c => code * 16 + (hexValue? c).getD 0) 0
  if h : code.isValidChar then some (Char.ofNatAux code h) else none

/-- Read a fixed number of hexadecimal digits; `isFirst` before the first of them. -/
def hexDigits (isFirst : Bool) : (count : Nat) → Scan (List Char)
  | 0 => do
    let _ ← bumpAndSpace
    return []
  | count + 1 => do
    if !isFirst then
      if !(← bumpAndSpace) then refuse .escapeUnexpectedEnd (← spot)
    match ← peek with
    | some c =>
      if (hexValue? c).isSome then return c :: (← hexDigits false count)
      else refuse .escapeHexInvalidDigit (← nextRange)
    | none => refuse .escapeUnexpectedEnd (← spot)

/-- Read hexadecimal digits up to a closing brace, which stays; at most `bound` characters are
left. -/
def hexUntilBrace (brace : Mark) : (bound : Nat) → Scan (List Char)
  | 0 => do refuse .escapeUnexpectedEnd (← rangeFrom brace)
  | bound + 1 => do
    if ← bumpAndSpace then
      match ← peek with
      | some '\x7d' => return []
      | some c =>
        if (hexValue? c).isSome then return c :: (← hexUntilBrace brace bound)
        else refuse .escapeHexInvalidDigit (← nextRange)
      | none => refuse .escapeUnexpectedEnd (← rangeFrom brace)
    else refuse .escapeUnexpectedEnd (← rangeFrom brace)

/-- Read a character given by its code; `count` digits are expected where no brace follows. -/
def hexLiteral (start : Mark) (count : Nat) : Scan Literal := do
  if !(← bumpAndSpace) then refuse .escapeUnexpectedEnd (← spot)
  if (← peek) = some '\x7b' then
    let brace ← here
    let first := (← nextRange).last
    let digits ← hexUntilBrace brace ((← remaining) + 1)
    let last ← here
    let _ ← bumpAndSpace
    if digits = [] then refuse .escapeHexEmpty (← rangeFrom brace)
    match charOfHex? digits with
    | some c => return ⟨← rangeFrom start, c, false⟩
    | none => refuse .escapeHexInvalid ⟨first, last⟩
  else
    let first ← here
    let digits ← hexDigits true count
    match charOfHex? digits with
    | some c => return ⟨← rangeFrom start, c, count == 2⟩
    | none => refuse .escapeHexInvalid (← rangeFrom first)

/-- Read the name of a property up to a closing brace, which stays. -/
def propertyName : (bound : Nat) → Scan (List Char)
  | 0 => do refuse .escapeUnexpectedEnd (← spot)
  | bound + 1 => do
    if ← bumpAndSpace then
      match ← peek with
      | some '\x7d' => return []
      | some c => return c :: (← propertyName bound)
      | none => refuse .escapeUnexpectedEnd (← spot)
    else refuse .escapeUnexpectedEnd (← spot)

/-- Split at the first place where a text stands. -/
def splitAt? (separator : List Char) : List Char → Option (List Char × List Char)
  | [] => none
  | c :: rest =>
    if separator.isPrefixOf (c :: rest) then some ([], (c :: rest).drop separator.length)
    else (splitAt? separator rest).map fun (before, after) => (c :: before, after)

/-- Understand the name of a property, which may come with a value. -/
def propertyOf (name : List Char) : Property :=
  let valued := fun (separator : String) (differs : Bool) =>
    (splitAt? separator.toList name).map fun (name, value) =>
      Property.valued (String.ofList name) (String.ofList value) differs
  match valued "!=" true, valued ":" false, valued "=" false with
  | some property, _, _ => property
  | none, some property, _ => property
  | none, none, some property => property
  | none, none, none => .named (String.ofList name)

/-- Read a property, whose `p` is next. -/
def property : Scan Property := do
  if !(← bumpAndSpace) then refuse .escapeUnexpectedEnd (← spot)
  match ← peek with
  | some '\x7b' => do
    let name ← propertyName ((← remaining) + 1)
    let _ ← bump
    return propertyOf name
  | some '\\' => do refuse .propertyInvalid (← nextRange)
  | some c => do
    let _ ← bumpAndSpace
    return .letter c
  | none => do refuse .escapeUnexpectedEnd (← spot)

/-- Characters of the name of a special word boundary. -/
def isBoundaryName (c : Char) : Bool := c.isAlpha || c == '-'

/-- Read the name of a special word boundary, whose brace is next. Where no name follows the brace, the
brace stays for a repetition. -/
def specialBoundary? (start : Mark) : Scan (Option Assertion) := do
  let before : Scanner ← get
  if !(← bumpAndSpace) then refuse .wordBoundaryUnexpectedEnd (← rangeFrom start)
  let first ← here
  if !(← peek).any isBoundaryName then
    set before
    return none
  let name ← takeSpaced isBoundaryName ((← remaining) + 1)
  if (← peek) ≠ some '\x7d' then refuse .wordBoundaryUnclosed (← rangeFrom before.mark)
  let last ← here
  let _ ← bump
  match String.ofList name with
  | "start" => return some .wordStart
  | "end" => return some .wordEnd
  | "start-half" => return some .wordStartHalf
  | "end-half" => return some .wordEndHalf
  | _ => refuse .wordBoundaryUnrecognized ⟨first, last⟩

/-- What an escape or a single character stands for. -/
inductive Single where
  | literal (literal : Literal)
  | dot (range : Range)
  | assertion (range : Range) (assertion : Assertion)
  | property (range : Range) (isNegated : Bool) (property : Property)
  | shorthand (range : Range) (isNegated : Bool) (kind : Shorthand)

/-- The part of the pattern that it was read from. -/
def Single.range : Single → Range
  | .literal char => char.range
  | .dot place => place
  | .assertion place _ => place
  | .property place .. => place
  | .shorthand place .. => place

/-- Characters that have a letter as their escape. -/
def namedChar? : Char → Option Char
  | 'a' => some (Char.ofNat 7)
  | 'f' => some (Char.ofNat 12)
  | 't' => some '\t'
  | 'n' => some '\n'
  | 'r' => some '\r'
  | 'v' => some (Char.ofNat 11)
  | _ => none

/-- Sets of characters that have a letter as their escape; the capital is for all others. -/
def shorthand? : Char → Option (Shorthand × Bool)
  | 'd' => some (.digit, false)
  | 'D' => some (.digit, true)
  | 's' => some (.space, false)
  | 'S' => some (.space, true)
  | 'w' => some (.word, false)
  | 'W' => some (.word, true)
  | _ => none

/-- Assertions that have a character as their escape. -/
def assertion? : Char → Option Assertion
  | 'A' => some .startText
  | 'z' => some .endText
  | 'b' => some .wordBoundary
  | 'B' => some .notWordBoundary
  | '<' => some .wordStart
  | '>' => some .wordEnd
  | _ => none

/-- Read an escape whose backslash is next. -/
def escape : Scan Single := do
  let start ← here
  if !(← bump) then refuse .escapeUnexpectedEnd (← rangeFrom start)
  match ← peek with
  | none => refuse .escapeUnexpectedEnd (← rangeFrom start)
  | some c =>
    if c.isDigit then refuse .backreference ⟨start, (← nextRange).last⟩
    else if c = 'x' then return .literal (← hexLiteral start 2)
    else if c = 'u' then return .literal (← hexLiteral start 4)
    else if c = 'U' then return .literal (← hexLiteral start 8)
    else if c = 'p' ∨ c = 'P' then
      let found ← property
      return .property (← rangeFrom start) (c == 'P') found
    else
      let _ ← bump
      let range ← rangeFrom start
      match shorthand? c with
      | some (kind, isNegated) => return .shorthand range isNegated kind
      | none =>
        if isEscapable c then return .literal ⟨range, c, false⟩
        else
          match namedChar? c, assertion? c with
          | some meant, _ => return .literal ⟨range, meant, false⟩
          | none, some found =>
            if c = 'b' ∧ (← peek) = some '\x7b' then
              match ← specialBoundary? start with
              | some special => return .assertion (← rangeFrom start) special
              | none => return .assertion range found
            else return .assertion range found
          | none, none => refuse .escapeUnrecognized range

/-- Read a character that is not special where it stands, or an escape. -/
def single : Scan Single := do
  match ← peek with
  | some '\\' => escape
  | some c => do
    let range ← nextRange
    let _ ← bump
    match c with
    | '.' => return .dot range
    | '^' => return .assertion range .startLine
    | '$' => return .assertion range .endLine
    | c => return .literal ⟨range, c, false⟩
  | none => refuse .escapeUnexpectedEnd (← spot)

end BundleFinish.Pattern.Scan
