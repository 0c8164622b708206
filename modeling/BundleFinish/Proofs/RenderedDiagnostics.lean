import BundleFinish.Report.Basic
import Mathlib.Data.String.Basic

/-! # Rendered diagnostics

Diagnostics are rendered one by one, in their order (`Diagnostic.render_cons`). The report of a
diagnostic begins with its code, and then with the sign of its severity in front of its message
(`Diagnostic.exists_lines_report`). -/

namespace BundleFinish

/-! ## Wrapped lines -/

namespace Text

variable {limit width : Nat} {indent : Indent}

/-- Filling lines makes one line at least. -/
theorem fillLines_ne_nil (line : List Word) (words : List Word) :
    fillLines limit line width words ≠ [] := by
  induction words generalizing line width with
  | nil => exact List.cons_ne_nil _ _
  | cons word words ih =>
    rw [fillLines]
    split
    · exact List.cons_ne_nil _ _
    · exact ih _

/-- A line is wrapped to one line at least. -/
theorem wrapLine_ne_nil (limit : Nat) (line : List Char) : wrapLine limit line ≠ [] := by
  unfold wrapLine
  rw [ne_eq, List.map_eq_nil_iff]
  exact fillLines_ne_nil _ _

/-- There is a piece in front of the first newline. -/
theorem splitNewlines_ne_nil (text : List Char) : splitNewlines text ≠ [] := by
  rcases text with _ | ⟨c, text⟩
  · exact List.cons_ne_nil _ _
  · rw [splitNewlines]
    split
    · exact List.cons_ne_nil _ _
    · split <;> exact List.cons_ne_nil _ _

/-- A wrapped text has a first line, with the indent of first lines, and the others have that of the
others. -/
theorem exists_wrap (indent : Indent) (width : Nat) (text : String) :
    ∃ (first : String) (others : List String), wrap indent width text =
      (indent.first ++ first) :: others.map (indent.rest ++ ·) := by
  obtain ⟨line, rest, pieces⟩ := List.exists_cons_of_ne_nil (splitNewlines_ne_nil text.toList)
  unfold wrap
  dsimp only
  generalize width - displayWidth indent.rest.toList = limit
  obtain ⟨first, others, lines⟩ := List.exists_cons_of_ne_nil (wrapLine_ne_nil limit line)
  rw [pieces, List.flatMap_cons, lines, List.cons_append, List.map_cons]
  exact ⟨_, _, rfl⟩

/-- One character by itself is a word. -/
theorem find_singleton {c : Char} (notSpace : c ≠ ' ') (shown : c ≠ escape) :
    Word.find [c] = [⟨[c], 0⟩] := by
  have cell : cells [] [c] = ([⟨[], c⟩], []) := by simp [cells, shown]
  have breaks : ∃ isBreak, Word.wordBreaks [c] = [isBreak] := by
    unfold Word.wordBreaks
    split <;> exact ⟨_, rfl⟩
  obtain ⟨isBreak, breaks⟩ := breaks
  rw [Word.find, cell]
  simp only [List.map_cons, List.map_nil, breaks]
  simp [Word.pieces, Word.ofChars, Cell.chars, notSpace]

/-- One character by itself is wrapped to one line, however narrow that is. -/
theorem wrapLine_singleton {c : Char} (notSpace : c ≠ ' ') (shown : c ≠ escape) :
    wrapLine limit [c] = [[c]] := by
  have cell : cells [] [c] = ([⟨[], c⟩], []) := by simp [cells, shown]
  have whole : Word.atHyphens ⟨[c], 0⟩ = [⟨[c], 0⟩] := by
    simp [Word.atHyphens, Word.splitHyphens, Word.ofPieces]
  have fits : Word.toFit limit ⟨[c], 0⟩ = [⟨[c], 0⟩] := by
    unfold Word.toFit
    split
    · simp [cell, Word.cut, Cell.chars, Word.ofPieces]
    · rfl
  simp only [wrapLine, find_singleton notSpace shown, List.flatMap_cons, List.flatMap_nil, whole,
    fits, List.append_nil, fillLines]
  simp [lineOfWords]

/-- A text of one character is wrapped to the character behind the indent. -/
theorem wrap_singleton {c : Char} (notSpace : c ≠ ' ') (notNewline : c ≠ '\n') (shown : c ≠ escape) :
    wrap indent width (String.singleton c) = [indent.first ++ String.singleton c] := by
  have line : splitNewlines [c] = [[c]] := by simp [splitNewlines, notNewline]
  have chars : (String.singleton c).toList = [c] := String.toList_singleton c
  rw [wrap, chars, line]
  simp only [List.flatMap_cons, List.flatMap_nil, wrapLine_singleton notSpace shown,
    List.append_nil, List.map_cons, List.map_nil]
  rfl

end Text

/-! ## Reports of diagnostics -/

namespace Diagnostic

/-- The lines in front of the message. -/
def codeLines (diagnostic : Diagnostic) : List String :=
  match diagnostic.code with
  | some code => [code, ""]
  | none => []

/-- The report of a diagnostic begins with its code, if it has one, and with the sign of its severity
in front of its message. -/
theorem exists_lines_report (diagnostic : Diagnostic) (width : Nat) :
    ∃ (first : String) (others : List String), diagnostic.report.lines width =
      diagnostic.codeLines ++ ("  " ++ Report.sign diagnostic.severity ++ " " ++ first) :: others := by
  obtain ⟨first, others, wrapped⟩ := Text.exists_wrap
    ⟨s!"  {Report.sign diagnostic.severity} ", "  │ "⟩ (width - 2) diagnostic.message
  unfold Report.lines codeLines
  dsimp only [report]
  rw [wrapped, List.append_assoc, List.append_assoc, List.append_assoc]
  exact ⟨first, _, rfl⟩

/-- A diagnostic without a place, whose message is one character, is reported by its code, its sign
and that character. -/
theorem lines_report_of_singleton {diagnostic : Diagnostic} {c : Char}
    (message : diagnostic.message = String.singleton c) (noPlace : diagnostic.place = none)
    (notSpace : c ≠ ' ') (notNewline : c ≠ '\n') (shown : c ≠ Text.escape) (width : Nat) :
    diagnostic.report.lines width = diagnostic.codeLines ++
      ["  " ++ Report.sign diagnostic.severity ++ " " ++ String.singleton c] := by
  have nowhere : diagnostic.report.place = none := by
    rw [report, noPlace]
    rcases diagnostic.source with _ | source <;> rfl
  unfold Report.lines codeLines
  rw [nowhere]
  dsimp only [report]
  rw [message, Text.wrap_singleton notSpace notNewline shown, Report.causeLines, List.append_nil,
    List.append_nil, List.append_nil]
  rfl

/-- Nothing is rendered for no diagnostics. -/
@[simp] theorem render_nil : render [] = "" := rfl

/-- Diagnostics are rendered one by one. -/
@[simp] theorem render_cons (diagnostic : Diagnostic) (others : List Diagnostic) :
    render (diagnostic :: others) = diagnostic.report.render screenWidth ++ render others := by
  simp [render, String.join_eq]

/-- Diagnostics are rendered in their order. -/
theorem render_append (front back : List Diagnostic) :
    render (front ++ back) = render front ++ render back := by
  induction front with
  | nil => simp
  | cons diagnostic front ih => rw [List.cons_append, render_cons, ih, render_cons, String.append_assoc]

end Diagnostic

end BundleFinish
