import BundleFinish.Proofs.DiagnosticBlocks

/-! # Indented lines

Type-checkers indent the lines with which a message goes on, and what they print there can quote
anything. White space at the front keeps a line from being a headline without a place, but a file
name can start with it: an indented line goes on with the last diagnostic unless a place and a
headline stand somewhere in it, and then it starts a diagnostic (`continues_iff`). -/

namespace BundleFinish

open Text

namespace Diagnostic

/-! ## One line of a text -/

/-- What is read from lines. -/
def readLines (lines : List (List Char)) : List Diagnostic := (lines.foldl readLine []).reverse

/-- What is read from a text is read from its lines. -/
theorem parse_eq_readLines (text : String) : parse text = readLines (lines text.toList) := rfl

/-- Something has been read as soon as a line is not blank. -/
theorem readLines_ne_nil_iff {lines : List (List Char)} :
    readLines lines ≠ [] ↔ ∃ line ∈ lines, isBlankText line = false := by
  rw [readLines, ne_eq, List.reverse_eq_nil_iff, foldl_readLine_eq_nil_iff]
  simp

/-- A line that has something to say and starts with white space. -/
structure IsIndented (line : List Char) : Prop where
  loud : isBlankText line = false
  blank : ∃ c ∈ line.head?, isBlank c = true

/-- Behind the lines before it, a line of a text is added to the message of the last diagnostic.
Lines that come later can be added behind it, and start other diagnostics. -/
def Continues (text : String) (before : List (List Char)) (line : List Char) : Prop :=
  ∃ earlier last more later, readLines before = earlier ++ [last] ∧
    parse text = earlier ++ last.goOn (line :: more) :: later

/-- Behind the lines before it, a line of a text starts a diagnostic. -/
def Interrupts (text : String) (before : List (List Char)) (line : List Char) : Prop :=
  ∃ diagnostic more later, Starts line diagnostic ∧
    parse text = readLines before ++ diagnostic.goOn more :: later

/-! ## What lines do to the last diagnostic -/

section

variable {text : String} {before after : List (List Char)} {line : List Char}

/-- A line is passed over, adds to the last message, or starts a diagnostic. -/
theorem readLine_cons_cases (last : Diagnostic) (seen : List Diagnostic) (line : List Char) :
    readLine (last :: seen) line = last :: seen ∨
      readLine (last :: seen) line = last.goOn [line] :: seen ∨
        ∃ diagnostic, readLine (last :: seen) line = diagnostic :: last :: seen := by
  unfold readLine
  split_ifs
  · exact .inl rfl
  · rcases ofLine? line with _ | diagnostic
    · exact .inr (.inl (by rw [← addLine_eq_goOn]))
    · exact .inr (.inr ⟨diagnostic, rfl⟩)

/-- Lines add to the last message, and diagnostics behind it. -/
theorem exists_foldl_readLine (after : List (List Char)) (last : Diagnostic)
    (seen : List Diagnostic) :
    ∃ later more, after.foldl readLine (last :: seen) = later ++ last.goOn more :: seen := by
  induction after generalizing last seen with
  | nil => exact ⟨[], [], by simp⟩
  | cons line others ih =>
    rw [List.foldl_cons]
    obtain same | added | ⟨diagnostic, started⟩ := readLine_cons_cases last seen line
    · rw [same]
      exact ih last seen
    · obtain ⟨later, more, read⟩ := ih (last.goOn [line]) seen
      refine ⟨later, line :: more, ?_⟩
      rw [added, read, goOn_goOn, List.singleton_append]
    -- Once another diagnostic has been started, nothing more is added to the last one.
    · obtain ⟨later, more, read⟩ := ih diagnostic (last :: seen)
      refine ⟨later ++ [diagnostic.goOn more], [], ?_⟩
      rw [started, read, goOn_nil, List.append_assoc, List.singleton_append]

/-- A line makes a message longer. -/
theorem goOn_cons_ne (diagnostic : Diagnostic) (line : List Char) (more : List (List Char)) :
    diagnostic.goOn (line :: more) ≠ diagnostic := by
  intro same
  have longer := congrArg (fun diagnostic => diagnostic.message.toList.length) same
  simp [goOn, withMessage] at longer

/-- No headline starts with white space. -/
theorem IsIndented.not_isGlobal (indented : IsIndented line) : ¬IsGlobal line := by
  rintro ⟨headline, -, rfl⟩
  obtain ⟨c, first, blank⟩ := indented.blank
  rcases headline with ⟨_ | _, code, message⟩ <;> cases first <;> revert blank <;> decide

/-- So an indented line is a heading only with a place. -/
theorem IsIndented.isHeading_iff (indented : IsIndented line) (single : '\n' ∉ line) :
    IsHeading line ↔ IsLocated line := by
  rw [isHeading_iff_isLocated_or_isGlobal single, or_iff_left indented.not_isGlobal]

/-! ## Where indented lines go on -/

/-- A line that is no heading goes on with the last diagnostic. -/
theorem continues_of_not_isHeading (split : lines text.toList = before ++ line :: after)
    (begun : readLines before ≠ []) (isSaid : IsSaid line) (goesOn : ¬IsHeading line) :
    Continues text before line := by
  rcases seen : before.foldl readLine [] with _ | ⟨last, earlier⟩
  · exact absurd (by rw [readLines, seen, List.reverse_nil]) begun
  · obtain ⟨later, more, read⟩ := exists_foldl_readLine after (last.goOn [line]) earlier
    refine ⟨earlier.reverse, last, more, later.reverse, by simp [readLines, seen], ?_⟩
    rw [parse_eq_readLines, readLines, split, List.foldl_append, seen, List.foldl_cons,
      readLine_cons_of_not_isHeading isSaid goesOn, read]
    simp

/-- A heading starts a diagnostic. -/
theorem interrupts_of_isHeading (split : lines text.toList = before ++ line :: after)
    (isSaid : IsSaid line) (heading : IsHeading line) : Interrupts text before line := by
  obtain ⟨diagnostic, starts⟩ := heading.exists_starts isSaid.single
  obtain ⟨later, more, read⟩ :=
    exists_foldl_readLine after diagnostic (before.foldl readLine [])
  refine ⟨diagnostic, more, later.reverse, starts, ?_⟩
  rw [parse_eq_readLines, readLines, split, List.foldl_append, List.foldl_cons,
    readLine_of_starts isSaid starts, read]
  simp [readLines]

/-- A line cannot do both: the last diagnostic is left as it is, or its message gets longer. -/
theorem Interrupts.not_continues (interrupts : Interrupts text before line) :
    ¬Continues text before line := by
  rintro ⟨earlier, last, more, later, seen, read⟩
  obtain ⟨diagnostic, more', later', -, read'⟩ := interrupts
  rw [read', seen, List.append_assoc, List.append_cancel_left_eq, List.singleton_append,
    List.cons.injEq] at read
  exact goOn_cons_ne last line more read.1.symm

/-- **Indented lines** behind a diagnostic go on with its message exactly where no place and no
headline stand in them. Where they do, the line starts a diagnostic, however far it is indented. -/
theorem continues_iff (split : lines text.toList = before ++ line :: after)
    (begun : readLines before ≠ []) (indented : IsIndented line) :
    (Continues text before line ↔ ¬IsLocated line) ∧
      (Interrupts text before line ↔ IsLocated line) := by
  have inText : line ∈ lines text.toList := by simp [split]
  have isSaid : IsSaid line := ⟨not_mem_of_mem_lines inText, indented.loud⟩
  have form := indented.isHeading_iff isSaid.single
  by_cases located : IsLocated line
  · have interrupts := interrupts_of_isHeading split isSaid (form.mpr located)
    simp [interrupts, interrupts.not_continues, located]
  · have continues := continues_of_not_isHeading split begun isSaid (form.not.mpr located)
    have notBoth : ¬Interrupts text before line := fun interrupts =>
      interrupts.not_continues continues
    simp [continues, notBoth, located]

end

/-- The first line of a diagnostic. -/
def openingLine : String := "src/a.ts(1,7): error TS2322: Type A is not assignable to type B."

/-- A line that goes on with a message. -/
def plainLine : String := "  Property x is missing in type A."

/-- One that should, and quotes a string type of the program. -/
def quotingLine : String := "  Type \"f(1,1): error TS1: x\" is not assignable to type \"g\"."

/-- What is printed for a diagnostic with two lines. -/
def twoLines (second : String) : String := openingLine ++ "\n" ++ second ++ "\n"

/-- Its lines. -/
theorem lines_twoLines {second : String} (isLine : IsLine second.toList) :
    lines (twoLines second).toList = [openingLine.toList] ++ second.toList :: [] := by
  have opening : IsLine openingLine.toList := ⟨by decide +kernel, by decide +kernel⟩
  have whole : (twoLines second).toList =
      openingLine.toList ++ '\n' :: (second.toList ++ '\n' :: []) := by
    simp [twoLines]
  rw [whole, lines_append_newline opening, lines_append_newline isLine]
  rfl

/-- The opening line is not blank, so a diagnostic has been started. -/
theorem readLines_openingLine_ne_nil : readLines [openingLine.toList] ≠ [] :=
  readLines_ne_nil_iff.mpr ⟨openingLine.toList, List.mem_singleton_self _, by decide +kernel⟩

theorem isIndented_quotingLine : IsIndented quotingLine.toList :=
  ⟨by decide +kernel, ' ', by decide +kernel, by decide⟩

theorem lines_twoLines_quotingLine :
    lines (twoLines quotingLine).toList = [openingLine.toList] ++ quotingLine.toList :: [] :=
  lines_twoLines ⟨by decide +kernel, by decide +kernel⟩

/-- The plain line goes on with the diagnostic, and the quoting one starts another. -/
theorem continues_iff_sample :
    Continues (twoLines plainLine) [openingLine.toList] plainLine.toList ∧
      Interrupts (twoLines quotingLine) [openingLine.toList] quotingLine.toList := by
  have plain : lines (twoLines plainLine).toList =
      [openingLine.toList] ++ plainLine.toList :: [] :=
    lines_twoLines ⟨by decide +kernel, by decide +kernel⟩
  have indented : IsIndented plainLine.toList :=
    ⟨by decide +kernel, ' ', by decide +kernel, by decide⟩
  exact ⟨(continues_iff plain readLines_openingLine_ne_nil indented).1.mpr (by decide +kernel),
    (continues_iff lines_twoLines_quotingLine readLines_openingLine_ne_nil
      isIndented_quotingLine).2.mpr (by decide +kernel)⟩

/-- So it is not true that a line goes on with the last diagnostic whenever it is indented. -/
theorem not_forall_continues :
    ¬∀ (text : String) (before after : List (List Char)) (line : List Char),
      lines text.toList = before ++ line :: after → readLines before ≠ [] → IsIndented line →
        Continues text before line := by
  intro all
  have isSaid : IsSaid quotingLine.toList := ⟨by decide +kernel, isIndented_quotingLine.loud⟩
  have interrupts :=
    interrupts_of_isHeading lines_twoLines_quotingLine isSaid (by decide +kernel)
  exact interrupts.not_continues (all _ _ [] _ lines_twoLines_quotingLine
    readLines_openingLine_ne_nil isIndented_quotingLine)

end Diagnostic

end BundleFinish
