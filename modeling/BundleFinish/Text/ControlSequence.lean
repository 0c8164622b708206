import BundleFinish.Text.Width

/-! # Control sequences

An escape character starts a sequence that a terminal does not show: after `[`, up to a final
character from `@` to `~`; after `]`, up to a bell or an escaped backslash; and otherwise just the
one character after it. -/

namespace BundleFinish.Text

/-- The escape character. -/
def escape : Char := '\x1b'

/-- Split a text behind the first character for which `ends` holds of it and the one before it. -/
def splitBehind (ends : (before c : Char) → Bool) (before : Char) :
    List Char → List Char × List Char
  | [] => ([], [])
  | c :: rest =>
    if ends before c then ([c], rest)
    else
      let (front, back) := splitBehind ends c rest
      (c :: front, back)

/-- Split off the part of a control sequence behind its escape character. -/
def splitControl : List Char → List Char × List Char
  | [] => ([], [])
  | '[' :: rest =>
    let (front, back) := splitBehind (fun _ c => '@' ≤ c && c ≤ '~') '[' rest
    ('[' :: front, back)
  | ']' :: rest =>
    let (front, back) :=
      splitBehind (fun before c => c == '\x07' || (c == '\\' && before == escape)) ']' rest
    (']' :: front, back)
  | c :: rest => ([c], rest)

theorem length_splitBehind_le (ends : Char → Char → Bool) (before : Char) (text : List Char) :
    (splitBehind ends before text).2.length ≤ text.length := by
  induction text generalizing before with
  | nil => simp [splitBehind]
  | cons c rest ih =>
    unfold splitBehind
    split
    · simp
    · have := ih c
      simp
      omega

/-- What follows a control sequence is not longer than the text. -/
theorem length_splitControl_le (text : List Char) :
    (splitControl text).2.length ≤ text.length := by
  unfold splitControl
  split
  · simp
  · rename_i rest
    have := length_splitBehind_le (fun _ c => '@' ≤ c && c ≤ '~') '[' rest
    simp
    omega
  · rename_i rest
    have := length_splitBehind_le
      (fun before c => c == '\x07' || (c == '\\' && before == escape)) ']' rest
    simp
    omega
  · simp

/-- A character that is shown, with the control sequences in front of it. -/
structure Cell where
  hidden : List Char
  shown : Char
  deriving DecidableEq, Repr

namespace Cell

/-- The characters of a cell. -/
def chars (cell : Cell) : List Char := cell.hidden ++ [cell.shown]

/-- The number of columns of a cell. -/
def width (cell : Cell) : Nat := charWidth cell.shown

end Cell

/-- The cells of a text, and the control sequences at its end. -/
def cells (hidden : List Char) : List Char → List Cell × List Char
  | [] => ([], hidden)
  | c :: rest =>
    if c = escape then
      cells (hidden ++ c :: (splitControl rest).1) (splitControl rest).2
    else
      let (others, tail) := cells [] rest
      (⟨hidden, c⟩ :: others, tail)
termination_by text => text.length
decreasing_by
  · have := length_splitControl_le rest
    simp
    omega
  · simp

/-- The number of columns of a text. -/
def displayWidth (text : List Char) : Nat := ((cells [] text).1.map Cell.width).foldr (· + ·) 0

end BundleFinish.Text
