import BundleFinish.Number.Binary
import BundleFinish.Settings.Failure
import BundleFinish.Text.Blank
import BundleFinish.Text.Utf8

/-! # Settings in environment variables

The name of a variable gives the key: after the prefix, in any case of ASCII letters, two
underscores or a dot separate the names of groups. The value is read by a small grammar of truth
values, numbers, quoted texts, lists and groups; a text that does not fit the grammar stands for
itself. -/

namespace BundleFinish.Settings

/-! ## Keys -/

/-- Replace two underscores by a dot, from the left. -/
def splitUnderscores : List Char → List Char
  | '_' :: '_' :: rest => '.' :: splitUnderscores rest
  | c :: rest => c :: splitUnderscores rest
  | [] => []

/-- Split at dots; there is always at least one piece. -/
def splitDots : List Char → List (List Char)
  | [] => [[]]
  | c :: rest =>
    if c = '.' then [] :: splitDots rest
    else
      match splitDots rest with
      | piece :: others => (c :: piece) :: others
      | [] => [[c]]

/-- The key that a variable assigns to, where its name names one. -/
def keyOfName? (name : String) : Option (List String) :=
  let name := Text.trimChars name.toList
  let start := variablePrefix.toList
  if (name.take start.length).map Char.toLower = start.map Char.toLower then
    let names := splitDots (splitUnderscores (name.drop start.length))
    if names.contains [] then none
    else some (names.map fun name => String.ofList (name.map Char.toLower))
  else none

/-! ## Numbers -/

/-- White space between the parts of a value. -/
def isGap (c : Char) : Bool :=
  c == ' ' || c == '\t' || c == '\n' || c == '\r' || c == '\x0c'

/-- The value of a run of ASCII digits, none for an empty run or for other characters. -/
def digits? (text : List Char) : Option Nat :=
  if text ≠ [] ∧ text.all Char.isDigit then
    some (text.foldl (fun value c => value * 10 + (c.toNat - 48)) 0)
  else none

/-- Split a sign off the front of a text. -/
def splitSign : List Char → Bool × List Char
  | '-' :: rest => (true, rest)
  | '+' :: rest => (false, rest)
  | text => (false, text)

/-- A whole number that fits into 64 bits, with or without a sign. -/
def wholeNumber? (text : List Char) : Option Value := do
  let (negative, shown) := splitSign text
  let value ← digits? shown
  if negative then if value ≤ Nat.pow 2 63 then some (.signed (-value)) else none
  else if value < Nat.pow 2 64 then some (.unsigned value) else none

/-- The number nearest to `digits * 10 ^ power`. Numbers far out of range are told by their length,
so that no large power is computed. -/
def nearest (negative : Bool) (digits : Nat) (power : Int) : Value :=
  let length : Int := (Nat.toDigits 10 digits).length
  if digits = 0 ∨ length + power < -400 then .real { Binary.zero with negative }
  else if 400 < length + power then .infinite negative
  else
    let rounded :=
      if 0 ≤ power then Binary.round? negative (digits * Nat.pow 10 power.toNat) 1
      else Binary.round? negative digits (Nat.pow 10 (-power).toNat)
    match rounded with
    | some value => .real value
    | none => .infinite negative

/-- The power of ten that an exponent names, nothing for no power. -/
def exponent? (text : List Char) : Option Int :=
  match text with
  | [] => some 0
  | c :: rest =>
    if c = 'e' ∨ c = 'E' then do
      let (negative, shown) := splitSign rest
      let value ← digits? shown
      return if negative then -value else value
    else none

/-- A number with a decimal point: digits on at least one side of it, and possibly a power of
ten. -/
def fraction? (text : List Char) : Option Value := do
  let (negative, shown) := splitSign text
  let whole := shown.takeWhile Char.isDigit
  match shown.dropWhile Char.isDigit with
  | '.' :: rest =>
    let part := rest.takeWhile Char.isDigit
    let digits ← digits? (whole ++ part)
    let power ← exponent? (rest.dropWhile Char.isDigit)
    return nearest negative digits (power - part.length)
  | _ => none

/-! ## Values -/

/-- Characters that end a plain text. -/
def isSeparator (c : Char) : Bool := c == ',' || c == '\x7b' || c == '\x7d' || c == '[' || c == ']'

/-- Characters of a name in a group. -/
def isNamePart (c : Char) : Bool := c.isAlphanum || c == '_' || c == '-'

/-- The value of a plain text: a number, where it reads as one. -/
def plainValue (text : List Char) : Value :=
  let text := Text.trimChars text
  let fraction := if text.contains '.' then fraction? text else none
  match fraction with
  | some value => value
  | none => (wholeNumber? text).getD (.text (String.ofList text))

/-- The character that a code in hexadecimal digits names. -/
def codePoint? (digits : List Char) : Option Char :=
  if digits.all fun c => c.isDigit || ('a' ≤ c && c ≤ 'f') || ('A' ≤ c && c ≤ 'F') then
    let code := digits.foldl (fun value c => value * 16 + CodeRanges.hexValue c.toLower) 0
    if code.isValidChar then some (Char.ofNat code) else none
  else none

/-- Characters that stand in a quoted text only by an escape: all controls but the tab. -/
def needsEscape (c : Char) : Bool := (c < ' ' && c ≠ '\t') || c == '\x7f'

/-- Read a quoted text behind its opening quote: the text and what follows the closing quote. At
most `bound` characters are left. -/
def quotedText? : (bound : Nat) → List Char → Option (List Char × List Char)
  | 0, _ => none
  | _ + 1, [] => none
  | _ + 1, '"' :: rest => some ([], rest)
  | bound + 1, '\\' :: c :: rest =>
    let short := fun (value : Char) => do
      let (text, rest) ← quotedText? bound rest
      return (value :: text, rest)
    let coded := fun (length : Nat) => do
      let digits := rest.take length
      if digits.length < length then none
      let value ← codePoint? digits
      let (text, rest) ← quotedText? bound (rest.drop length)
      return (value :: text, rest)
    match c with
    | '"' => short '"'
    | '\\' => short '\\'
    | 'b' => short '\x08'
    | 'f' => short '\x0c'
    | 'n' => short '\n'
    | 'r' => short '\r'
    | 't' => short '\t'
    | 'u' => coded 4
    | 'U' => coded 8
    | _ => none
  | _ + 1, ['\\'] => none
  | bound + 1, c :: rest => do
    if needsEscape c then none
    let (text, rest) ← quotedText? bound rest
    return (c :: text, rest)

/-- Read the name of an entry in a group. -/
def entryName? (text : List Char) : Option (String × List Char) :=
  match text with
  | '"' :: rest => do
    let (name, rest) ← quotedText? (rest.length + 1) rest
    return (String.ofList name, rest)
  | _ =>
    match text.takeWhile isNamePart with
    | [] => none
    | name => some (String.ofList name, text.dropWhile isNamePart)

/-- The text after a word, where it starts with the word. -/
def afterWord? (word : String) (text : List Char) : Option (List Char) :=
  if word.toList.isPrefixOf text then some (text.drop word.toList.length) else none

/-- Skip white space. -/
def skipGaps (text : List Char) : List Char := text.dropWhile isGap

/-- Read the parts of a list or a group up to its end; a separator may stand before the end. At most
`bound` parts follow. -/
def parts? {α : Type} (part? : List Char → Option (α × List Char)) (closing : Char) :
    (bound : Nat) → List Char → Option (List α × List Char)
  | 0, _ => none
  | bound + 1, text =>
    if text.head? = some closing then some ([], text.tail)
    else do
      let (first, rest) ← part? text
      if rest.head? = some closing then return ([first], rest.tail)
      else if rest.head? = some ',' then do
        let (others, rest) ← parts? part? closing bound rest.tail
        return (first :: others, rest)
      else none

/-- Read an entry of a group: a name, an equals sign and a value. -/
def assignment? (value? : List Char → Option (Value × List Char)) (text : List Char) :
    Option ((String × Value) × List Char) := do
  let (name, rest) ← entryName? (skipGaps text)
  match skipGaps rest with
  | '=' :: rest => do
    let (value, rest) ← value? (skipGaps rest)
    return ((name, value), skipGaps rest)
  | _ => none

/-- Read a value that starts at once; `value?` reads the values inside it. -/
def startedValue? (value? : List Char → Option (Value × List Char)) (text : List Char) :
    Option (Value × List Char) :=
  match afterWord? "true" text, afterWord? "false" text with
  | some rest, _ => some (.bool true, rest)
  | none, some rest => some (.bool false, rest)
  | none, none =>
    match text with
    | '\x7b' :: rest => do
      let (entries, rest) ← parts? (assignment? value?) '\x7d' (rest.length + 1) rest
      return (Value.mapOf entries, rest)
    | '[' :: rest => do
      let (items, rest) ← parts? value? ']' (rest.length + 1) rest
      return (.list items, rest)
    | '"' :: rest => do
      let (shown, rest) ← quotedText? (rest.length + 1) rest
      return (.text (String.ofList shown), rest)
    | '\'' :: c :: '\'' :: rest => some (.char c, rest)
    | '\'' :: _ => none
    | _ =>
      some (plainValue (text.takeWhile fun c => !isSeparator c),
        text.dropWhile fun c => !isSeparator c)

/-- Read a value and what follows it, with white space around it. Lists and groups are at most
`depth` deep. -/
def value? : (depth : Nat) → List Char → Option (Value × List Char)
  | 0, _ => none
  | depth + 1, text => do
    let (value, rest) ← startedValue? (value? depth) (skipGaps text)
    return (value, skipGaps rest)

/-- The value of a variable. What is left over or does not fit the grammar makes it a text. -/
def valueOfText (text : String) : Value :=
  match value? (text.toList.length + 1) text.toList with
  | some (value, []) => value
  | _ => .text text

/-- The settings that variables assign, by name and text. -/
def ofVariables (environment : List (String × String)) : Setting :=
  Setting.ofAssignments .environment <| environment.filterMap fun (name, text) =>
    (keyOfName? name).map fun key => (key, valueOfText text)

end BundleFinish.Settings
