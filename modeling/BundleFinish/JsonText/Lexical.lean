import BundleFinish.JsonText.Cursor

/-! # Strings and numbers of JSON

Strings are read with their escapes, and numbers either as whole numbers of 64 bits or as binary
fractions. -/

namespace BundleFinish.JsonText.Read

/-! ## Strings -/

/-- The value of a hexadecimal digit of either case. -/
def hexDigit? (c : Char) : Option Nat :=
  if c.isDigit then some (c.toNat - 48)
  else if 'a' ≤ c ∧ c ≤ 'f' then some (c.toNat - 87)
  else if 'A' ≤ c ∧ c ≤ 'F' then some (c.toNat - 55)
  else none

/-- The value of four hexadecimal digits. -/
def fourDigits? (digits : List Char) : Option Nat :=
  if digits.length = 4 then
    digits.foldl (fun value c => do return (← value) * 16 + (← hexDigit? c)) (some 0)
  else none

/-- Read the four digits of an escape. -/
def hexEscape : Read Nat := do
  let cursor ← get
  match fourDigits? (cursor.rest.take 4) with
  | some value => do
    drop; drop; drop; drop
    return value
  | none =>
    if Utf8.octetLength cursor.rest < 4 then
      failAfter (Utf8.octetLength cursor.rest) .endInString
    else failAfter 4 .badEscape

/-- Read the escape of the second half of a surrogate pair. -/
def secondSurrogate (first : Nat) : Read Char := do
  for expected in ['\\', 'u'] do
    match ← peek with
    | none => fail .endInString
    | some c => if c = expected then drop else failAhead .unfinishedSurrogate
  let second ← hexEscape
  if second < 0xdc00 ∨ 0xdfff < second then fail .loneSurrogate
  else return Char.ofNat ((first - 0xd800) * 0x400 + (second - 0xdc00) + 0x10000)

/-- Read what follows the backslash of an escape. -/
def escape : Read Char := do
  match ← peek with
  | none => fail .endInString
  | some c =>
    let short := fun (meant : Char) => do drop; return meant
    match c with
    | '"' => short '"'
    | '\\' => short '\\'
    | '/' => short '/'
    | 'b' => short (Char.ofNat 8)
    | 'f' => short (Char.ofNat 12)
    | 'n' => short '\n'
    | 'r' => short '\r'
    | 't' => short '\t'
    | 'u' => do
      drop
      let code ← hexEscape
      if 0xdc00 ≤ code ∧ code ≤ 0xdfff then fail .loneSurrogate
      else if 0xd800 ≤ code ∧ code ≤ 0xdbff then secondSurrogate code
      else return Char.ofNat code
    | _ => failAhead .badEscape

/-- Read characters up to the closing quote; at most `bound` of them are left. -/
def characters (escaped : Read Char) : (bound : Nat) → (seen : List Char) → Read (List Char)
  | 0, _ => fail .endInString
  | bound + 1, seen => do
    match ← peek with
    | none => fail .endInString
    | some '"' => do
      drop
      return seen.reverse
    | some '\\' => do
      drop
      let c ← escaped
      characters escaped bound (c :: seen)
    | some c =>
      if c.toNat < 0x20 then failAhead .controlCharacter
      else do
        drop
        characters escaped bound (c :: seen)

/-- Read a string whose opening quote is next. -/
def string : Read String := do
  drop
  return String.ofList (← characters escape ((← remaining) + 1) [])

/-- Read past the escape of a string that nobody asked for: code units are not paired. -/
def skippedEscape : Read Char := do
  match ← peek with
  | none => fail .endInString
  | some 'u' => do
    drop
    let _ ← hexEscape
    return 'u'
  | some c =>
    if ['"', '\\', '/', 'b', 'f', 'n', 'r', 't'].contains c then do
      drop
      return c
    else failAhead .badEscape

/-- Read past a string whose opening quote is next. -/
def skipString : Read Unit := do
  drop
  let _ ← characters skippedEscape ((← remaining) + 1) []

/-! ## Numbers -/

/-- A number as it is understood. -/
inductive Number where
  | unsigned (value : Nat)
  | signed (value : Int)
  | real (value : Binary)
  deriving DecidableEq, Repr

/-- The shape of a number. -/
def Number.shape : Number → Shape
  | .unsigned value => .unsigned value
  | .signed value => .signed value
  | .real value => .real value

/-- The largest whole number of 64 bits. -/
def maxUnsigned : Nat := 18446744073709551615

/-- The least whole number of 64 bits with a sign. -/
def minSigned : Int := -9223372036854775808

/-- The largest exponent that is told apart from larger ones. -/
def maxExponent : Nat := 2147483647

/-- Take up a run of ASCII digits. -/
def digits : Read (List Char) := fun cursor =>
  let taken := cursor.rest.takeWhile Char.isDigit
  .ok (taken, ⟨cursor.line, cursor.column + taken.length, cursor.rest.dropWhile Char.isDigit⟩)

/-- Digits that still count for a significand of 64 bits: the significand, and how many of the digits
were taken. -/
def significant (value count : Nat) : List Char → Nat × Nat
  | [] => (value, count)
  | c :: rest =>
    let larger := value * 10 + (c.toNat - 48)
    if maxUnsigned < larger then (value, count) else significant larger (count + 1) rest

/-- How many digits are taken until they exceed the largest exponent. -/
def digitsUntilTooLarge (value : Nat) : List Char → Nat
  | [] => 0
  | c :: rest =>
    let larger := value * 10 + (c.toNat - 48)
    if maxExponent < larger then 1 else digitsUntilTooLarge larger rest + 1

/-- The number with a significand and a power of ten. -/
def scaled (negative : Bool) (significand : Nat) (power : Int) : Read Number :=
  match Binary.ofDecimal? negative significand power with
  | some value => pure (.real value)
  | none => fail .numberTooLarge

/-- Read an exponent, whose `e` is next, and give the number. -/
def exponent (negative : Bool) (significand : Nat) (power : Int) : Read Number := do
  drop
  let sign ← peek
  if sign = some '+' ∨ sign = some '-' then drop
  let isLess := sign == some '-'
  match ← peek with
  | none => fail .endInValue
  | some c =>
    if c.isDigit then do
      let before : Cursor ← get
      let shown ← digits
      let value := shown.foldl (fun value c => value * 10 + (c.toNat - 48)) 0
      if value ≤ maxExponent then
        scaled negative significand (if isLess then power - value else power + value)
      -- The exponent decides alone, unless there is nothing to scale.
      else if significand ≠ 0 ∧ !isLess then do
        set before
        failAfter (digitsUntilTooLarge 0 shown) .numberTooLarge
      else return .real { Binary.zero with negative }
    else failAhead .badNumber

/-- Whether an exponent is next. -/
def exponentNext (c : Option Char) : Bool := c == some 'e' || c == some 'E'

/-- Read a fraction, whose point is next, and give the number. -/
def fraction (negative : Bool) (significand : Nat) (power : Int) : Read Number := do
  drop
  let shown ← digits
  if shown = [] then
    if (← peek).isNone then fail .endInValue else failAhead .badNumber
  else do
    let (value, count) := significant significand 0 shown
    if exponentNext (← peek) then exponent negative value (power - count)
    else scaled negative value (power - count)

/-- Read a number behind its sign. -/
def number (negative : Bool) : Read Number := do
  match ← peek with
  | none => fail .endInValue
  | some c =>
    if !c.isDigit then failAhead .badNumber
    else do
      let shown ← if c = '0' then do drop; pure [c] else digits
      if c = '0' ∧ (← peek).any Char.isDigit then failAhead .badNumber
      else do
        let (value, count) := significant 0 0 shown
        let power := shown.length - count
        let next ← peek
        if next = some '.' then fraction negative value power
        else if exponentNext next then exponent negative value power
        else if count < shown.length then scaled negative value power
        else if !negative then return .unsigned value
        -- A negative zero is no whole number, and neither is one that 64 bits cannot hold.
        else if value = 0 ∨ -(value : Int) < minSigned then scaled true value 0
        else return .signed (-value)

/-- Read a number whose first character is next. -/
def anyNumber : Read Number := do
  if (← peek) = some '-' then do
    drop
    number true
  else number false

/-- Read past the digits of a number behind its sign. -/
def skipNumber : Read Unit := do
  match ← peek with
  | none => failAhead .badNumber
  | some c =>
    if !c.isDigit then failAhead .badNumber
    else do
      if c = '0' then do
        drop
        if (← peek).any Char.isDigit then failAhead .badNumber
      else
        let _ ← digits
      if (← peek) = some '.' then do
        drop
        if (← digits) = [] then failAhead .badNumber
      if exponentNext (← peek) then do
        drop
        let sign ← peek
        if sign = some '+' ∨ sign = some '-' then drop
        match ← peek with
        | some c => if c.isDigit then let _ ← digits else failAhead .badNumber
        | none => failAhead .badNumber

end BundleFinish.JsonText.Read
