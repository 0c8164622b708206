import BundleFinish.Pattern.Expression
import BundleFinish.Text.Blank

/-! # Scanning a pattern

The state of reading a pattern from front to back, and the small steps that everything else is built
from. Where white space is ignored, so are comments, which run from `#` to the end of the line. -/

namespace BundleFinish.Pattern

/-- The rest of a pattern with its place, whether white space is ignored, and the group names seen so
far. -/
structure Scanner where
  mark : Mark
  rest : List Char
  ignoresSpace : Bool
  names : List (String × Range)

/-- A step of reading a pattern. -/
abbrev Scan (α : Type) := StateT Scanner (Except Fault) α

namespace Scan

/-- Refuse the pattern. -/
def refuse {α : Type} (cause : Cause) (range : Range) : Scan α := fun _ =>
  .error ⟨cause, range⟩

/-- The place reached. -/
def here : Scan Mark := fun scanner => .ok (scanner.mark, scanner)

/-- The next character, which stays. -/
def peek : Scan (Option Char) := fun scanner => .ok (scanner.rest.head?, scanner)

/-- Whether nothing is left. -/
def atEnd : Scan Bool := fun scanner => .ok (scanner.rest.isEmpty, scanner)

/-- The empty range at the place reached. -/
def spot : Scan Range := fun scanner => .ok (⟨scanner.mark, scanner.mark⟩, scanner)

/-- The range of the next character. -/
def nextRange : Scan Range := fun scanner =>
  match scanner.rest with
  | [] => .ok (⟨scanner.mark, scanner.mark⟩, scanner)
  | c :: _ => .ok (⟨scanner.mark, scanner.mark.after c⟩, scanner)

/-- The range from a place to the place reached. -/
def rangeFrom (first : Mark) : Scan Range := fun scanner =>
  .ok (⟨first, scanner.mark⟩, scanner)

/-- Drop the next character and say whether another one follows. -/
def bump : Scan Bool := fun scanner =>
  match scanner.rest with
  | [] => .ok (false, scanner)
  | c :: rest => .ok (!rest.isEmpty, { scanner with mark := scanner.mark.after c, rest })

/-- The place and the rest behind white space and comments. -/
def skipIgnored (inComment : Bool) (mark : Mark) : List Char → Mark × List Char
  | [] => (mark, [])
  | c :: rest =>
    if inComment then skipIgnored (c != '\n') (mark.after c) rest
    else if Text.isBlank c then skipIgnored false (mark.after c) rest
    else if c = '#' then skipIgnored true (mark.after c) rest
    else (mark, c :: rest)

/-- Skip white space and comments where they are ignored. -/
def bumpSpace : Scan Unit := fun scanner =>
  if scanner.ignoresSpace then
    let (mark, rest) := skipIgnored false scanner.mark scanner.rest
    .ok ((), { scanner with mark, rest })
  else .ok ((), scanner)

/-- Drop the next character and what is ignored behind it, and say whether anything follows. -/
def bumpAndSpace : Scan Bool := do
  if ← bump then
    bumpSpace
    return !(← atEnd)
  else return false

/-- Take up a text if it is next. -/
def bumpIf (text : List Char) : Scan Bool := do
  let scanner ← get
  if text.isPrefixOf scanner.rest then
    for _ in text do
      let _ ← bump
    return true
  else return false

/-- The character behind the next one. -/
def peekSecond : Scan (Option Char) := fun scanner => .ok (scanner.rest[1]?, scanner)

/-- The first character that is not ignored. The first character of a comment that is no white space
counts. -/
def firstShown (inComment : Bool) : List Char → Option Char
  | [] => none
  | c :: rest =>
    if Text.isBlank c then firstShown inComment rest
    else if !inComment && c == '#' then firstShown true rest
    else some c

/-- The character behind the next one, past what is ignored. -/
def peekSecondShown : Scan (Option Char) := fun scanner =>
  if scanner.ignoresSpace then
    .ok (
      match firstShown false scanner.rest.tail with
      | some c => some c
      | none => scanner.rest[1]?, scanner)
  else .ok (scanner.rest[1]?, scanner)

/-- Take up characters while they fulfil a condition, skipping what is ignored between them; at most
`bound` are left. -/
def takeSpaced (condition : Char → Bool) : (bound : Nat) → Scan (List Char)
  | 0 => pure []
  | bound + 1 => do
    match ← peek with
    | some c =>
      if condition c then do
        let _ ← bumpAndSpace
        return c :: (← takeSpaced condition bound)
      else return []
    | none => return []

/-- How many characters are left. -/
def remaining : Scan Nat := fun scanner => .ok (scanner.rest.length, scanner)

end Scan

end BundleFinish.Pattern
