import BundleFinish.Declarations.Reference
import Mathlib.Data.List.Basic

/-! # Interpreter lines of texts

What stands on the first line of a text that starts with `#!`, said without the functions that look
for it. A text is split in one way (`InterpreterSplit.unique`), and lines that are put below its
interpreter line are found below it again (`InterpreterSplit.below`); a directive is put there
(`Declarations.interpreterSplit_injectReference`). -/

namespace BundleFinish

namespace Text

/-- **The interpreter line of a text** as it is shown above other lines, and the rest of the text.
A text that does not start with `#!` shows none. Otherwise the first line is shown, with the newline
that it has or, where the text ends without one, with a new one. -/
inductive InterpreterSplit : List Char → List Char → List Char → Prop
  | plain {text : List Char} (plain : ¬"#!".toList <+: text) : InterpreterSplit text [] text
  | ended {line rest : List Char} (starts : "#!".toList <+: line) (single : '\n' ∉ line) :
      InterpreterSplit (line ++ '\n' :: rest) (line ++ ['\n']) rest
  | unended {line : List Char} (starts : "#!".toList <+: line) (single : '\n' ∉ line) :
      InterpreterSplit line (line ++ ['\n']) []

/-- The two characters are looked for at the front. -/
theorem hasShebang_iff (text : List Char) : hasShebang text = true ↔ "#!".toList <+: text := by
  unfold hasShebang
  split
  case h_1 rest => exact iff_of_true rfl ⟨rest, rfl⟩
  case h_2 other =>
    refine iff_of_false nofun ?_
    rintro ⟨rest, same⟩
    exact other rest same.symm

/-- The first line of a text goes up to its first newline. -/
theorem splitFirstLine_append_newline {line : List Char} (single : '\n' ∉ line)
    (rest : List Char) : splitFirstLine (line ++ '\n' :: rest) = (line ++ ['\n'], rest) := by
  induction line with
  | nil => rfl
  | cons c others ih =>
    rw [List.mem_cons, not_or] at single
    rw [List.cons_append, splitFirstLine, if_neg (Ne.symm single.1), ih single.2]
    rfl

/-- Without a newline the first line is the whole text. -/
theorem splitFirstLine_of_not_mem {text : List Char} (single : '\n' ∉ text) :
    splitFirstLine text = (text, []) := by
  induction text with
  | nil => rfl
  | cons c others ih =>
    rw [List.mem_cons, not_or] at single
    rw [splitFirstLine, if_neg (Ne.symm single.1), ih single.2]

/-- Every text is split in some way: a text that starts with `#!` has a first newline or none. -/
theorem exists_interpreterSplit (text : List Char) :
    ∃ shown rest, InterpreterSplit text shown rest := by
  by_cases starts : "#!".toList <+: text
  · by_cases newline : '\n' ∈ text
    · obtain ⟨line, rest, rfl, single⟩ := List.eq_append_cons_of_mem newline
      have inLine : "#!".toList <+: line := by
        -- The newline is neither of the two characters, so both stand in front of it.
        rcases line with _ | ⟨c, _ | ⟨d, others⟩⟩
        · exact absurd starts (by simp)
        · exact absurd starts (by simp)
        · simpa using starts
      exact ⟨_, _, .ended inLine single⟩
    · exact ⟨_, _, .unended starts newline⟩
  · exact ⟨_, _, .plain starts⟩

namespace InterpreterSplit

variable {text shown rest shown' rest' behind : List Char}

/-- What is split off is what the splitting functions give. -/
theorem eq_splitShebang (split : InterpreterSplit text shown rest) :
    shown = shebangLine (splitShebang text).1 ∧ rest = (splitShebang text).2 := by
  cases split with
  | plain plain =>
    rw [splitShebang, if_neg (mt (hasShebang_iff text).mp plain)]
    exact ⟨rfl, rfl⟩
  | @ended line rest starts single =>
    have interpreted := (hasShebang_iff (line ++ '\n' :: rest)).mpr
      (starts.trans (List.prefix_append line _))
    rw [splitShebang, if_pos interpreted, splitFirstLine_append_newline single, shebangLine,
      if_neg (by simp), endLine, if_pos (by simp)]
    exact ⟨rfl, rfl⟩
  | unended starts single =>
    have nonempty : text ≠ [] := by
      rintro rfl
      exact absurd starts (by simp)
    have unended : ¬text.getLast? = some '\n' := fun last =>
      single (List.mem_of_getLast? last)
    rw [splitShebang, if_pos ((hasShebang_iff text).mpr starts), splitFirstLine_of_not_mem single,
      shebangLine, if_neg nonempty, endLine, if_neg unended]
    exact ⟨rfl, rfl⟩

/-- A text is split in one way. -/
theorem unique (split : InterpreterSplit text shown rest)
    (other : InterpreterSplit text shown' rest') : shown = shown' ∧ rest = rest' := by
  obtain ⟨rfl, rfl⟩ := split.eq_splitShebang
  obtain ⟨rfl, rfl⟩ := other.eq_splitShebang
  exact ⟨rfl, rfl⟩

/-- No line is shown exactly for a text that does not start with `#!`. -/
theorem eq_nil_iff (split : InterpreterSplit text shown rest) :
    shown = [] ↔ ¬"#!".toList <+: text := by
  cases split with
  | plain plain => exact iff_of_true rfl plain
  | ended starts =>
    exact iff_of_false (by simp) (not_not_intro (starts.trans (List.prefix_append _ _)))
  | unended starts => exact iff_of_false (by simp) (not_not_intro starts)

/-- Lines that are put below the interpreter line of a text are found below it, unless they start
with an interpreter line themselves. -/
theorem below (split : InterpreterSplit text shown rest) (plain : ¬"#!".toList <+: behind) :
    InterpreterSplit (shown ++ behind) shown behind := by
  cases split with
  | plain => exact .plain plain
  | ended starts single =>
    rw [List.append_assoc]
    exact .ended starts single
  | unended starts single =>
    rw [List.append_assoc]
    exact .ended starts single

end InterpreterSplit

end Text

namespace Declarations

open Text

/-- A directive starts with a comment. -/
theorem not_prefix_referenceDirective (declaration : String) (behind : List Char) :
    ¬"#!".toList <+: (referenceDirective declaration).toList ++ behind := by
  have shape : referenceDirective declaration =
      "/// <reference types=\"./" ++ declaration ++ "\" />" := rfl
  simp [shape]

variable {shown rest : List Char}

/-- A directive is put below the interpreter line. -/
theorem injectChars_eq {text : List Char} (split : InterpreterSplit text shown rest)
    (declaration : String) :
    injectChars text declaration =
      shown ++ ((referenceDirective declaration).toList ++ '\n' :: rest) := by
  obtain ⟨rfl, rfl⟩ := split.eq_splitShebang
  rw [injectChars, List.append_assoc]

/-- The interpreter line of a text with a directive is that of the text, and the directive stands
below it. -/
theorem interpreterSplit_injectReference {text : String}
    (split : InterpreterSplit text.toList shown rest) (declaration : String) :
    InterpreterSplit (injectReference text declaration).toList shown
      ((referenceDirective declaration).toList ++ '\n' :: rest) := by
  rw [injectReference, String.toList_ofList, injectChars_eq split]
  exact split.below (not_prefix_referenceDirective declaration _)

end Declarations

end BundleFinish
