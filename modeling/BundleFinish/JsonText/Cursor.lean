import BundleFinish.JsonText.Failure

/-! # Reading a JSON text from front to back

A cursor is the rest of a text and the place reached in it. A reader takes up a part of the text and
gives a value, or fails at a place. A failure is put either at the place reached or, where the next
octet is to blame, one octet further. -/

namespace BundleFinish.JsonText

/-- The rest of a text and the place of its first character. -/
structure Cursor where
  line : Nat
  column : Nat
  rest : List Char
  deriving DecidableEq, Repr

namespace Cursor

/-- The start of a text. -/
def start (text : List Char) : Cursor := ⟨1, 0, text⟩

/-- The place behind a character. -/
def pass (cursor : Cursor) (c : Char) (rest : List Char) : Cursor :=
  if c = '\n' then ⟨cursor.line + 1, 0, rest⟩
  else ⟨cursor.line, cursor.column + c.utf8Size, rest⟩

/-- Drop the next character. -/
def advance (cursor : Cursor) : Cursor :=
  match cursor.rest with
  | [] => cursor
  | c :: rest => cursor.pass c rest

/-- The place behind the next octet. -/
def ahead (cursor : Cursor) : Nat × Nat :=
  match cursor.rest with
  | [] => (cursor.line, cursor.column)
  | c :: _ => if c = '\n' then (cursor.line + 1, 0) else (cursor.line, cursor.column + 1)

/-- The place behind some octets, not past the end. -/
def placeAfter : Nat → Nat → Nat → List Char → Nat × Nat
  | 0, line, column, _ => (line, column)
  | _ + 1, line, column, [] => (line, column)
  | octets + 1, line, column, c :: rest =>
    if octets + 1 < c.utf8Size then (line, column + octets + 1)
    else if c = '\n' then placeAfter octets (line + 1) 0 rest
    else placeAfter (octets + 1 - c.utf8Size) line (column + c.utf8Size) rest

end Cursor

/-- A step of reading. -/
abbrev Read (α : Type) := StateT Cursor (Except Failure) α

namespace Read

/-- Fail at the place reached. -/
def fail {α : Type} (cause : Cause) : Read α := fun cursor =>
  .error ⟨cause, cursor.line, cursor.column⟩

/-- Fail behind the next octet. -/
def failAhead {α : Type} (cause : Cause) : Read α := fun cursor =>
  .error ⟨cause, cursor.ahead.1, cursor.ahead.2⟩

/-- Fail behind some more octets. -/
def failAfter {α : Type} (octets : Nat) (cause : Cause) : Read α := fun cursor =>
  let (line, column) := Cursor.placeAfter octets cursor.line cursor.column cursor.rest
  .error ⟨cause, line, column⟩

/-- The next character, which stays. -/
def peek : Read (Option Char) := fun cursor => .ok (cursor.rest.head?, cursor)

/-- Drop the next character. -/
def drop : Read Unit := fun cursor => .ok ((), cursor.advance)

/-- How many characters are left, a bound for every loop over them. -/
def remaining : Read Nat := fun cursor => .ok (cursor.rest.length, cursor)

/-- White space of the JSON grammar. -/
def isSpace (c : Char) : Bool := c == ' ' || c == '\n' || c == '\t' || c == '\r'

/-- The cursor behind white space. -/
def spacesFrom (line column : Nat) : List Char → Cursor
  | [] => ⟨line, column, []⟩
  | c :: rest =>
    if c = '\n' then spacesFrom (line + 1) 0 rest
    else if isSpace c then spacesFrom line (column + 1) rest
    else ⟨line, column, c :: rest⟩

/-- Skip white space. -/
def spaces : Read Unit := fun cursor =>
  .ok ((), spacesFrom cursor.line cursor.column cursor.rest)

/-- The next character that is no white space, which stays. -/
def next : Read (Option Char) := do
  spaces
  peek

/-- Read a word whose first character was already seen. -/
def word : List Char → Read Unit
  | [] => pure ()
  | c :: rest => do
    match ← peek with
    | none => fail .endInValue
    | some found => if found = c then do drop; word rest else failAhead .expectedWord

end Read

end BundleFinish.JsonText
