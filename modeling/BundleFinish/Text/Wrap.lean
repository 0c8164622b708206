import BundleFinish.Text.Blank
import BundleFinish.Text.ControlSequence
import BundleFinish.Text.Letter
import BundleFinish.Text.LineBreak

/-! # Wrapping text

A line of text is split into words where a line may be broken, and words fill lines as long as they
fit. A hyphen between letters or digits ends a word, too, and a word that is too long for a line is
cut. Control sequences take no columns. -/

namespace BundleFinish.Text

/-- A piece of text that stays on one line, and the number of spaces behind it. -/
structure Word where
  chars : List Char
  spaces : Nat
  deriving DecidableEq, Repr

namespace Word

/-- The number of columns without the spaces. -/
def width (word : Word) : Nat := displayWidth word.chars

/-- A piece of text with the spaces at its end. -/
def ofChars (text : List Char) : Word :=
  { chars := (text.reverse.dropWhile (· == ' ')).reverse
    spaces := (text.reverse.takeWhile (· == ' ')).length }

/-- The characters with the spaces. -/
def spaced (word : Word) : List Char := word.chars ++ List.replicate word.spaces ' '

/-! ## Finding words -/

/-- A hyphen, soft or hard. No line is broken behind it by the general rules. -/
def isHyphen (c : Char) : Bool := c == '-' || c == '\xad'

/-- Whether a line may be broken in front of each character, never behind a hyphen. -/
def breaks (shown : List Char) : List Bool :=
  let behindHyphen := false :: shown.map isHyphen
  (lineBreaks shown).zipWith (fun isBreak hyphen => isBreak && !hyphen) behindHyphen

/-- Take back the last place for a break. -/
def dropLastBreak (breaks : List Bool) : List Bool :=
  let rec dropFirst : List Bool → List Bool
    | [] => []
    | true :: rest => false :: rest
    | false :: rest => false :: dropFirst rest
  (dropFirst breaks.reverse).reverse

/-- The places for breaks in a text. The last place is given up where the text ends with a
hyphen. -/
def wordBreaks (shown : List Char) : List Bool :=
  if (shown.getLast?).any isHyphen then dropLastBreak (breaks shown) else breaks shown

/-- Put cells together to pieces, from one break to the next. -/
def pieces : List (Bool × Cell) → (tail : List Char) → List (List Char)
  | [], tail => if tail = [] then [] else [tail]
  | (_, cell) :: rest, tail =>
    match rest, pieces rest tail with
    | [], _ => [cell.chars ++ tail]
    | (isBreak, _) :: _, first :: others =>
      if isBreak then cell.chars :: first :: others else (cell.chars ++ first) :: others
    | _ :: _, [] => [cell.chars ++ tail]

/-- The words of a line by the general rules. -/
def find (line : List Char) : List Word :=
  let (shown, tail) := cells [] line
  (pieces ((wordBreaks (shown.map Cell.shown)).zip shown) tail).map ofChars

/-! ## Splitting words -/

/-- Split behind hyphens between letters or digits. `part` is the current piece backwards. -/
def splitHyphens (before : Option Char) (part : List Char) : List Char → List (List Char)
  | [] => [part.reverse]
  | c :: rest =>
    if c = '-' ∧ before.any isAlphanumeric ∧ (rest.head?).any isAlphanumeric then
      (c :: part).reverse :: splitHyphens (some c) [] rest
    else splitHyphens (some c) (c :: part) rest

/-- Give the last of some pieces the spaces, and the others none. -/
def ofPieces (spaces : Nat) : List (List Char) → List Word
  | [] => []
  | [last] => [⟨last, spaces⟩]
  | piece :: others => ⟨piece, 0⟩ :: ofPieces spaces others

/-- Split a word at its hyphens. -/
def atHyphens (word : Word) : List Word :=
  ofPieces word.spaces (splitHyphens none [] word.chars)

/-- Cut cells into pieces of at most `limit` columns. -/
def cut (limit : Nat) (piece : List Char) (width : Nat) : List Cell → (tail : List Char) →
    List (List Char)
  | [], tail => [piece ++ tail]
  | cell :: rest, tail =>
    -- A cell that is wider than a line still gets a piece of its own.
    if 0 < width ∧ limit < width + cell.width then
      (piece ++ cell.hidden) :: cut limit [cell.shown] cell.width rest tail
    else cut limit (piece ++ cell.chars) (width + cell.width) rest tail

/-- Cut a word that is longer than a line. -/
def toFit (limit : Nat) (word : Word) : List Word :=
  if limit < word.width then
    let (shown, tail) := cells [] word.chars
    ofPieces word.spaces (cut limit [] 0 shown tail)
  else [word]

end Word

/-! ## Filling lines -/

/-- Fill lines of at most `limit` columns. `line` is the current line backwards. -/
def fillLines (limit : Nat) (line : List Word) (width : Nat) : List Word → List (List Word)
  | [] => [line.reverse]
  | word :: rest =>
    -- The spaces behind a word need not fit: they go where the line ends.
    if limit < width + word.width ∧ line ≠ [] then
      line.reverse :: fillLines limit [word] (word.width + word.spaces) rest
    else fillLines limit (word :: line) (width + word.width + word.spaces) rest

/-- The text of a line of words, without the spaces at its end. -/
def lineOfWords : List Word → List Char
  | [] => []
  | [last] => last.chars
  | word :: others => word.spaced ++ lineOfWords others

/-- Wrap one line to lines of at most `limit` columns; there is always at least one. -/
def wrapLine (limit : Nat) (line : List Char) : List (List Char) :=
  let words := ((Word.find line).flatMap Word.atHyphens).flatMap (Word.toFit limit)
  (fillLines limit [] 0 words).map lineOfWords

/-- What the first line and all other lines start with; both are equally wide. -/
structure Indent where
  first : String
  rest : String
  deriving DecidableEq, Repr

/-- Wrap a text to lines of at most `width` columns with their indent. -/
def wrap (indent : Indent) (width : Nat) (text : String) : List String :=
  let limit := width - displayWidth indent.rest.toList
  let lines := (splitNewlines text.toList).flatMap (wrapLine limit)
  match lines.map String.ofList with
  | [] => []
  | first :: others => (indent.first ++ first) :: others.map (indent.rest ++ ·)

end BundleFinish.Text
