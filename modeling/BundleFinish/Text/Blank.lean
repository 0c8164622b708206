/-! # White space, trimming and lines

White space is the Unicode property `White_Space`. Lines end at a newline, and one carriage return
directly before that newline belongs to the line end. -/

namespace BundleFinish.Text

/-- White space: the Unicode property `White_Space`. -/
def isBlank (c : Char) : Bool :=
  let code := c.toNat
  (9 ≤ code && code ≤ 13) || code == 0x20 || code == 0x85 || code == 0xa0 || code == 0x1680
    || (0x2000 ≤ code && code ≤ 0x200a) || code == 0x2028 || code == 0x2029 || code == 0x202f
    || code == 0x205f || code == 0x3000

/-- Drop white space from the end. -/
def trimEndChars (text : List Char) : List Char :=
  (text.reverse.dropWhile isBlank).reverse

/-- Drop white space from both ends. -/
def trimChars (text : List Char) : List Char :=
  trimEndChars (text.dropWhile isBlank)

/-- Drop white space from both ends. -/
def trim (text : String) : String :=
  String.ofList (trimChars text.toList)

/-- Whether a text holds nothing but white space. -/
def isBlankText (text : List Char) : Bool :=
  text.all isBlank

/-- Split at every newline; the pieces have none. There is always at least one piece. -/
def splitNewlines : List Char → List (List Char)
  | [] => [[]]
  | c :: rest =>
    if c = '\n' then [] :: splitNewlines rest
    else
      match splitNewlines rest with
      | piece :: others => (c :: piece) :: others
      | [] => [[c]]

/-- Split after every newline, which stays with its piece. No piece is empty. -/
def splitInclusive : List Char → List (List Char)
  | [] => []
  | c :: rest =>
    if c = '\n' then [c] :: splitInclusive rest
    else
      match splitInclusive rest with
      | piece :: others => (c :: piece) :: others
      | [] => [[c]]

@[simp] theorem splitInclusive_nil : splitInclusive [] = [] := rfl

/-- The pieces of a text, put together, are the text. -/
@[simp] theorem flatten_splitInclusive (text : List Char) :
    (splitInclusive text).flatten = text := by
  induction text with
  | nil => rfl
  | cons c rest ih =>
    unfold splitInclusive
    split
    · simp [ih]
    · split <;> simp_all

/-- A piece without its line end: one newline, and one carriage return before it. -/
def dropLineEnd (piece : List Char) : List Char :=
  match piece.reverse with
  | '\n' :: '\r' :: before => before.reverse
  | '\n' :: before => before.reverse
  | _ => piece

/-- The lines of a text, without their line ends. A text that ends with a newline has no empty last
line. -/
def lines (text : List Char) : List (List Char) :=
  (splitInclusive text).map dropLineEnd

end BundleFinish.Text
