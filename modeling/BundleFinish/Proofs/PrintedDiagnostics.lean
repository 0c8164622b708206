import BundleFinish.Proofs.DiagnosticLines
import Mathlib.Data.List.Basic

/-! # Printed diagnostics

A type-checker prints a diagnostic as its place, its headline and the lines of its message. Such a
text is read line by line: a first line starts a diagnostic, any other line goes on with the message
of the last one. So a list of diagnostics is read back as it was printed, provided that the lines of
each can be told apart (`parse_printed`). -/

namespace BundleFinish

open Text

/-! ## Lines of a text -/

namespace Text

/-- The part up to the first newline is the first piece. -/
theorem splitInclusive_append_newline {line : List Char} (single : '\n' ∉ line)
    (rest : List Char) :
    splitInclusive (line ++ '\n' :: rest) = (line ++ ['\n']) :: splitInclusive rest := by
  induction line with
  | nil => rfl
  | cons c others ih =>
    rw [List.mem_cons, not_or] at single
    rw [List.cons_append, splitInclusive, if_neg (Ne.symm single.1), ih single.2]
    rfl

/-- A text without a newline is one piece. -/
theorem splitInclusive_of_not_mem {line : List Char} (single : '\n' ∉ line) (some : line ≠ []) :
    splitInclusive line = [line] := by
  induction line with
  | nil => exact absurd rfl some
  | cons c others ih =>
    rw [List.mem_cons, not_or] at single
    rw [splitInclusive, if_neg (Ne.symm single.1)]
    rcases others with _ | ⟨d, rest⟩
    · rfl
    · rw [ih single.2 (List.cons_ne_nil d rest)]

/-- A newline without a carriage return before it is all that belongs to the line end. -/
theorem dropLineEnd_append_newline {line : List Char} (noReturn : line.getLast? ≠ some '\r') :
    dropLineEnd (line ++ ['\n']) = line := by
  have back : (line ++ ['\n']).reverse = '\n' :: line.reverse := by
    rw [List.reverse_append]
    rfl
  unfold dropLineEnd
  rw [back]
  split
  case h_1 before same =>
    rw [← List.head?_reverse, (List.cons.inj same).2] at noReturn
    exact absurd rfl noReturn
  case h_2 before _ same => rw [← (List.cons.inj same).2, List.reverse_reverse]
  case h_3 _ other => exact absurd rfl (other line.reverse)

/-- A line without a newline has no line end. -/
theorem dropLineEnd_of_not_mem {line : List Char} (single : '\n' ∉ line) :
    dropLineEnd line = line := by
  rw [← List.mem_reverse] at single
  unfold dropLineEnd
  split
  case h_1 before same => exact absurd (same ▸ List.mem_cons_self) single
  case h_2 before _ same => exact absurd (same ▸ List.mem_cons_self) single
  case h_3 => rfl

/-- A line as it can stand in a text: without a newline, and without the carriage return that would
belong to a line end. -/
structure IsLine (line : List Char) : Prop where
  single : '\n' ∉ line
  noReturn : line.getLast? ≠ some '\r'

/-- More can stand before a line that is not empty. -/
theorem IsLine.append_left {before line : List Char} (single : '\n' ∉ before)
    (isLine : IsLine line) (some : line ≠ []) : IsLine (before ++ line) where
  single := by
    rw [List.mem_append]
    exact not_or_intro single isLine.single
  noReturn := by
    rw [List.getLast?_append_of_ne_nil before some]
    exact isLine.noReturn

/-- The first line of a text ends at its first newline. -/
theorem lines_cons_newline {line : List Char} (single : '\n' ∉ line) (rest : List Char) :
    lines (line ++ '\n' :: rest) = dropLineEnd (line ++ ['\n']) :: lines rest := by
  rw [lines, splitInclusive_append_newline single, List.map_cons, lines]

/-- The first line of a text, and the lines behind it. -/
theorem lines_append_newline {line : List Char} (isLine : IsLine line) (rest : List Char) :
    lines (line ++ '\n' :: rest) = line :: lines rest := by
  rw [lines_cons_newline isLine.single, dropLineEnd_append_newline isLine.noReturn]

/-- The only line of a text. -/
theorem lines_of_not_mem {line : List Char} (single : '\n' ∉ line) (some : line ≠ []) :
    lines line = [line] := by
  rw [lines, splitInclusive_of_not_mem single some, List.map_singleton,
    dropLineEnd_of_not_mem single]

/-- The lines that a text is split into have no newline, and make up the text. -/
theorem exists_splitNewlines (text : List Char) :
    ∃ first others, splitNewlines text = first :: others ∧
      text = first ++ others.flatMap ('\n' :: ·) ∧ ∀ line ∈ first :: others, '\n' ∉ line := by
  induction text with
  | nil => exact ⟨[], [], rfl, rfl, by simp⟩
  | cons c rest ih =>
    obtain ⟨first, others, split, whole, single⟩ := ih
    by_cases newline : c = '\n'
    · refine ⟨[], first :: others, by rw [splitNewlines, if_pos newline, split], ?_, ?_⟩
      · rw [newline, whole, List.flatMap_cons]
        rfl
      · rintro line (_ | ⟨_, member⟩)
        · exact List.not_mem_nil
        · exact single line member
    · refine ⟨c :: first, others, by rw [splitNewlines, if_neg newline, split], ?_, ?_⟩
      · rw [whole, List.cons_append]
      · rintro line (_ | ⟨_, member⟩)
        · rw [List.mem_cons, not_or]
          exact ⟨Ne.symm newline, single first List.mem_cons_self⟩
        · exact single line (List.mem_cons_of_mem first member)

/-- The lines of pieces that are joined by newlines, with a newline and a text behind them. -/
theorem lines_joined_append {first : List Char} {others : List (List Char)}
    (areLines : ∀ line ∈ first :: others, IsLine line) (rest : List Char) :
    lines (first ++ (others.flatMap ('\n' :: ·) ++ '\n' :: rest)) =
      first :: (others ++ lines rest) := by
  induction others generalizing first with
  | nil => exact lines_append_newline (areLines first List.mem_cons_self) rest
  | cons second others ih =>
    obtain ⟨isLine, next⟩ := List.forall_mem_cons.mp areLines
    rw [List.flatMap_cons, List.cons_append, List.cons_append, List.append_assoc,
      lines_append_newline isLine, ih next]
    rfl

/-- The lines of pieces that are joined by newlines. -/
theorem lines_joined {first : List Char} {others : List (List Char)}
    (areLines : ∀ line ∈ first :: others, IsLine line)
    (some : ∀ line ∈ first :: others, line ≠ []) :
    lines (first ++ others.flatMap ('\n' :: ·)) = first :: others := by
  induction others generalizing first with
  -- Without a newline behind it, the last piece is a line because it is not empty.
  | nil =>
    rw [List.flatMap_nil, List.append_nil]
    have isLine := areLines first List.mem_cons_self
    exact lines_of_not_mem isLine.single (some first List.mem_cons_self)
  | cons second others ih =>
    obtain ⟨isLine, next⟩ := List.forall_mem_cons.mp areLines
    rw [List.flatMap_cons, List.cons_append, lines_append_newline isLine,
      ih next (List.forall_mem_cons.mp some).2]

end Text

/-! ## Printing -/

namespace Diagnostic

/-- A number as it is printed. -/
def printedNumber (n : Nat) : List Char := (toString n).toList

/-- What is printed before the message of a diagnostic. -/
def heading (diagnostic : Diagnostic) : List Char :=
  let mark := Headline.mark ⟨diagnostic.severity, (diagnostic.code.getD "").toList, []⟩
  match diagnostic.file, diagnostic.line, diagnostic.column with
  | some file, some line, some column =>
    file.toList ++ (Position.mark ⟨printedNumber line, printedNumber column⟩ ++ mark)
  | _, _, _ => mark

/-- Diagnostics as they are printed: each with its message, and a newline at the end. -/
def printed (diagnostics : List Diagnostic) : String :=
  String.ofList (diagnostics.flatMap fun diagnostic =>
    diagnostic.heading ++ (diagnostic.message.toList ++ ['\n']))

/-- A headline whose code is one, and whose message has lines that can be told apart: none ends in a
carriage return, and all but the first are neither blank nor first lines of a diagnostic. -/
structure Headline.IsPrintable (headline : Headline) : Prop where
  isCode : IsCode headline.code
  noReturn : ∀ line ∈ splitNewlines headline.message, line.getLast? ≠ some '\r'
  goesOn : ∀ line ∈ (splitNewlines headline.message).tail,
    isBlankText line = false ∧ ¬IsLocated line ∧ ¬IsGlobal line

/-- A diagnostic that can be told from its printed lines. -/
inductive IsPrintable : Diagnostic → Prop
  /-- It names a place in a file; the name has no mark inside, and the numbers are not too large. -/
  | located {headline : Headline} {file : List Char} {line column : Nat}
      (printable : headline.IsPrintable) (named : file ≠ []) (single : '\n' ∉ file)
      (plain : ¬HasMark file) (lineFits : line ≤ maxNumber) (columnFits : column ≤ maxNumber) :
      IsPrintable ((ofHeadline headline).locatedAt (String.ofList file) line column)
  /-- It names no place, and its first line does not look as if it did. -/
  | global {headline : Headline} (printable : headline.IsPrintable)
      (other : ∀ first ∈ (splitNewlines headline.message).head?,
        ¬IsLocated (headline.mark ++ first)) :
      IsPrintable (ofHeadline headline)

/-! ## Numbers -/

/-- The digits of numbers are digits. -/
theorem isDecimalDigit_of_isDigit {c : Char} (isDigit : c.isDigit = true) :
    isDecimalDigit c = true := by
  have below : c.toNat < 128 := Nat.lt_of_le_of_lt (Char.isDigit_iff_toNat.mp isDigit).2 (by decide)
  rw [isDecimalDigit, if_pos below, isDigit]

theorem isDigit_of_mem_printedNumber {n : Nat} {c : Char} (member : c ∈ printedNumber n) :
    c.isDigit = true := by
  rw [printedNumber, Nat.toString_eq_repr, Nat.toList_repr] at member
  exact Nat.isDigit_of_mem_toDigits (by decide) (by decide) member

theorem printedNumber_ne_nil (n : Nat) : printedNumber n ≠ [] := by
  rw [printedNumber, Nat.toString_eq_repr, Nat.toList_repr]
  exact Nat.toDigits_ne_nil

theorem isDigits_printedNumber (n : Nat) : IsDigits (printedNumber n) :=
  ⟨printedNumber_ne_nil n, fun _ member =>
    isDecimalDigit_of_isDigit (isDigit_of_mem_printedNumber member)⟩

/-- The value of digits is the number they stand for to the base ten. -/
theorem digitsValue_eq_ofDigitChars (digits : List Char) :
    digitsValue digits = Nat.ofDigitChars 10 digits 0 := by
  rw [Nat.ofDigitChars_eq_foldl, digitsValue]
  congr 1
  funext value c
  rw [Nat.mul_comm]
  rfl

/-- The digits that are printed have the value of the number. -/
theorem digitsValue_printedNumber (n : Nat) : digitsValue (printedNumber n) = n := by
  rw [digitsValue_eq_ofDigitChars, printedNumber, Nat.toString_eq_repr, Nat.toList_repr,
    Nat.ofDigitChars_ten_toDigits]

/-- A number that is printed is read back, up to the largest. -/
theorem number_printedNumber {n : Nat} (fits : n ≤ maxNumber) : number (printedNumber n) = n := by
  have ascii : (printedNumber n).all Char.isDigit = true :=
    List.all_eq_true.mpr fun _ => isDigit_of_mem_printedNumber
  have value := digitsValue_printedNumber n
  rw [number, boundedNumber?, if_pos ⟨printedNumber_ne_nil n, ascii, value.symm ▸ fits⟩, value,
    Option.getD_some]

/-! ## First lines -/

/-- The word for a severity has a letter, so no first line is blank. -/
theorem isBlankText_mark_append (headline : Headline) (before behind : List Char) :
    isBlankText (before ++ (headline.mark ++ behind)) = false := by
  have letter : 'r' ∈ headline.severity.word := by
    rcases headline.severity with _ | _ <;> decide
  have inside : 'r' ∈ before ++ (headline.mark ++ behind) := by
    simp [Headline.mark, letter]
  rw [isBlankText, List.all_eq_false]
  exact ⟨'r', inside, by decide⟩

/-- A headline is not empty. -/
theorem Headline.mark_append_ne_nil (headline : Headline) (behind : List Char) :
    headline.mark ++ behind ≠ [] := by
  simp [Headline.mark]

/-- A headline and the first line of a message are a line. -/
theorem Headline.isLine_mark_append {headline : Headline} (isCode : IsCode headline.code)
    {line : List Char} (isLine : IsLine line) : IsLine (headline.mark ++ line) := by
  have single : '\n' ∉ headline.mark := Headline.not_mem_mark isCode (by decide) (by decide)
  rcases line with _ | ⟨c, rest⟩
  · -- The blank at the end is no carriage return.
    have ends : headline.mark =
        (headline.severity.word ++ ' ' :: (headline.code ++ [':'])) ++ [' '] := by
      simp [Headline.mark]
    rw [List.append_nil]
    refine ⟨single, ?_⟩
    rw [ends, List.getLast?_concat]
    decide
  · exact isLine.append_left single (List.cons_ne_nil c rest)

/-- A diagnostic without a place is printed as its headline. -/
theorem heading_ofHeadline (headline : Headline) :
    (ofHeadline headline).heading = headline.mark := by
  change Headline.mark ⟨headline.severity, (String.ofList headline.code).toList, []⟩ = _
  rw [String.toList_ofList]
  rfl

/-- A diagnostic with a place is printed as its file, the place and its headline. -/
theorem heading_locatedAt (headline : Headline) (file : List Char) (line column : Nat) :
    ((ofHeadline headline).locatedAt (String.ofList file) line column).heading =
      file ++ (Position.mark ⟨printedNumber line, printedNumber column⟩ ++ headline.mark) := by
  rw [← heading_ofHeadline headline]
  change (String.ofList file).toList ++ _ = _
  rw [String.toList_ofList]
  rfl

/-- A diagnostic with another message. -/
def withMessage (diagnostic : Diagnostic) (message : List Char) : Diagnostic :=
  { diagnostic with message := String.ofList message }

/-- A diagnostic with lines added to its message. -/
def goOn (diagnostic : Diagnostic) (others : List (List Char)) : Diagnostic :=
  diagnostic.withMessage (diagnostic.message.toList ++ others.flatMap ('\n' :: ·))

@[simp] theorem goOn_nil (diagnostic : Diagnostic) : diagnostic.goOn [] = diagnostic := by
  simp [goOn, withMessage]

/-- Lines can be added one after the other. -/
@[simp] theorem goOn_goOn (diagnostic : Diagnostic) (others more : List (List Char)) :
    (diagnostic.goOn others).goOn more = diagnostic.goOn (others ++ more) := by
  simp [goOn, withMessage]

/-- A line that is added is a line that goes on with the message. -/
theorem addLine_eq_goOn (diagnostic : Diagnostic) (line : List Char) :
    diagnostic.addLine line = diagnostic.goOn [line] := by
  rw [addLine, goOn, withMessage]
  congr 1
  rw [← String.toList_inj]
  simp

/-- The first line of a diagnostic is read as what it says. -/
theorem IsPrintable.ofLine?_heading_append {diagnostic : Diagnostic}
    (printable : IsPrintable diagnostic) {first : List Char}
    (isFirst : first ∈ (splitNewlines diagnostic.message.toList).head?) :
    ofLine? (diagnostic.heading ++ first) = some (diagnostic.withMessage first) := by
  cases printable with
  | @located headline file line column printable named single plain lineFits columnFits =>
    have read : located? (file ++ (Position.mark ⟨printedNumber line, printedNumber column⟩ ++
        (headline.mark ++ first))) =
          some (file, ⟨printedNumber line, printedNumber column⟩,
            { headline with message := first }) :=
      located?_of_not_hasMark named plain
        ⟨isDigits_printedNumber line, isDigits_printedNumber column⟩ printable.isCode first
    rw [heading_locatedAt, List.append_assoc, List.append_assoc, ofLine?, read]
    dsimp only
    rw [number_printedNumber lineFits, number_printedNumber columnFits]
    rfl
  | @global headline printable other =>
    have message : (ofHeadline headline).message.toList = headline.message :=
      String.toList_ofList
    have read : headline? (headline.mark ++ first) = some { headline with message := first } :=
      headline?_mark_append printable.isCode first
    rw [message] at isFirst
    rw [heading_ofHeadline, ofLine?, located?_eq_none_iff.mpr (other first isFirst), read]
    rfl

/-- The first line of a diagnostic is not blank. -/
theorem IsPrintable.isBlankText_heading_append {diagnostic : Diagnostic}
    (printable : IsPrintable diagnostic) (first : List Char) :
    isBlankText (diagnostic.heading ++ first) = false := by
  cases printable with
  | located =>
    rw [heading_locatedAt, List.append_assoc, List.append_assoc, ← List.append_assoc]
    exact isBlankText_mark_append _ _ _
  | global =>
    rw [heading_ofHeadline]
    exact isBlankText_mark_append _ [] _

/-- The first line of a diagnostic starts it. -/
theorem IsPrintable.readLine_heading_append {diagnostic : Diagnostic}
    (printable : IsPrintable diagnostic) {first : List Char}
    (isFirst : first ∈ (splitNewlines diagnostic.message.toList).head?) (seen : List Diagnostic) :
    readLine seen (diagnostic.heading ++ first) = diagnostic.withMessage first :: seen := by
  have some := printable.isBlankText_heading_append first
  unfold readLine
  rw [if_neg (by simp [some]), printable.ofLine?_heading_append isFirst]

/-- A line starts no diagnostic exactly where it has neither form. -/
theorem ofLine?_eq_none_iff {line : List Char} :
    ofLine? line = none ↔ ¬IsLocated line ∧ ¬IsGlobal line := by
  rw [← located?_eq_none_iff, ← headline?_eq_none_iff, ofLine?]
  rcases located? line with _ | ⟨file, position, headline⟩
  · simp
  · simp

/-- Then it goes on with the message of the last one. -/
theorem readLine_of_ofLine?_eq_none {line : List Char} (some : isBlankText line = false)
    (none : ofLine? line = none) (diagnostic : Diagnostic) (seen : List Diagnostic) :
    readLine (diagnostic :: seen) line = diagnostic.goOn [line] :: seen := by
  unfold readLine
  rw [if_neg (by simp [some]), none, ← addLine_eq_goOn]

/-- The lines behind the first make up the message. -/
theorem foldl_readLine_goOn {others : List (List Char)}
    (goesOn : ∀ line ∈ others, isBlankText line = false ∧ ¬IsLocated line ∧ ¬IsGlobal line)
    (diagnostic : Diagnostic) (seen : List Diagnostic) :
    others.foldl readLine (diagnostic :: seen) = diagnostic.goOn others :: seen := by
  induction others generalizing diagnostic with
  | nil => rw [List.foldl_nil, goOn_nil]
  | cons line others ih =>
    obtain ⟨some, noForm⟩ := goesOn line List.mem_cons_self
    rw [List.foldl_cons, readLine_of_ofLine?_eq_none some (ofLine?_eq_none_iff.mpr noForm),
      ih fun line member => goesOn line (List.mem_cons_of_mem _ member), goOn_goOn,
      List.singleton_append]

/-! ## Lines of a printed diagnostic -/

namespace IsPrintable

variable {diagnostic : Diagnostic}

/-- The message of a printable diagnostic has lines that can be told apart. -/
theorem exists_headline (printable : IsPrintable diagnostic) :
    ∃ headline : Headline, headline.IsPrintable ∧
      diagnostic.message.toList = headline.message := by
  cases printable with
  | located printable => exact ⟨_, printable, String.toList_ofList⟩
  | global printable => exact ⟨_, printable, String.toList_ofList⟩

/-- The first line of a printed diagnostic is a line. -/
theorem isLine_heading_append (printable : IsPrintable diagnostic) {first : List Char}
    (isLine : IsLine first) : IsLine (diagnostic.heading ++ first) := by
  cases printable with
  | @located headline file line column printable named single =>
    have noDigit : ∀ n, '\n' ∉ printedNumber n :=
      fun n => (isDigits_printedNumber n).not_mem (by decide)
    have before : '\n' ∉ file ++ Position.mark ⟨printedNumber line, printedNumber column⟩ := by
      simp [Position.mark, single, noDigit]
    rw [heading_locatedAt, List.append_assoc, List.append_assoc, ← List.append_assoc]
    exact (headline.isLine_mark_append printable.isCode isLine).append_left before
      (headline.mark_append_ne_nil first)
  | @global headline printable =>
    rw [heading_ofHeadline]
    exact headline.isLine_mark_append printable.isCode isLine

/-- The lines of a printable diagnostic are read as that diagnostic. -/
theorem exists_lines (printable : IsPrintable diagnostic) :
    ∃ first others, diagnostic.message.toList = first ++ others.flatMap ('\n' :: ·) ∧
      (∀ line ∈ (diagnostic.heading ++ first) :: others, IsLine line) ∧
      (∀ line ∈ (diagnostic.heading ++ first) :: others, line ≠ []) ∧
      ∀ seen, ((diagnostic.heading ++ first) :: others).foldl readLine seen =
        diagnostic :: seen := by
  obtain ⟨first, others, split, whole, single⟩ := exists_splitNewlines diagnostic.message.toList
  obtain ⟨headline, told, message⟩ := printable.exists_headline
  have noReturn := told.noReturn
  have goesOn := told.goesOn
  rw [← message, split] at noReturn goesOn
  rw [List.tail_cons] at goesOn
  have areLines : ∀ line ∈ first :: others, IsLine line :=
    fun line member => ⟨single line member, noReturn line member⟩
  have isFirst : first ∈ (splitNewlines diagnostic.message.toList).head? := by
    rw [split]
    rfl
  obtain ⟨isLine, next⟩ := List.forall_mem_cons.mp areLines
  refine ⟨first, others, whole, ?_, ?_, fun seen => ?_⟩
  · exact List.forall_mem_cons.mpr ⟨printable.isLine_heading_append isLine, next⟩
  · -- No line is blank, so none is empty.
    refine List.forall_mem_cons.mpr ⟨fun empty => ?_, ?_⟩
    · have blank := printable.isBlankText_heading_append first
      rw [empty] at blank
      cases blank
    · rintro line member rfl
      cases (goesOn [] member).1
  · have message : (diagnostic.withMessage first).message.toList = first := String.toList_ofList
    have read : (diagnostic.withMessage first).goOn others = diagnostic := by
      rw [goOn, message, ← whole]
      simp [withMessage]
    rw [List.foldl_cons, printable.readLine_heading_append isFirst, foldl_readLine_goOn goesOn,
      read]

/-- A printed diagnostic before other lines. -/
theorem foldl_lines_append (printable : IsPrintable diagnostic) (rest : List Char)
    (seen : List Diagnostic) :
    (lines (diagnostic.heading ++ (diagnostic.message.toList ++ '\n' :: rest))).foldl readLine
        seen =
      (lines rest).foldl readLine (diagnostic :: seen) := by
  obtain ⟨first, others, whole, areLines, -, read⟩ := printable.exists_lines
  rw [whole, List.append_assoc, ← List.append_assoc, lines_joined_append areLines,
    ← List.cons_append, List.foldl_append, read]

/-- A printed diagnostic at the end, without a newline. -/
theorem foldl_lines (printable : IsPrintable diagnostic) (seen : List Diagnostic) :
    (lines (diagnostic.heading ++ diagnostic.message.toList)).foldl readLine seen =
      diagnostic :: seen := by
  obtain ⟨first, others, whole, areLines, some, read⟩ := printable.exists_lines
  rw [whole, ← List.append_assoc, lines_joined areLines some, read]

end IsPrintable

/-! ## Reading back -/

/-- Printed diagnostics before other lines. -/
theorem foldl_lines_printed_append {diagnostics : List Diagnostic}
    (printable : ∀ diagnostic ∈ diagnostics, IsPrintable diagnostic) (rest : List Char)
    (seen : List Diagnostic) :
    (lines ((printed diagnostics).toList ++ rest)).foldl readLine seen =
      (lines rest).foldl readLine (diagnostics.reverse ++ seen) := by
  rw [printed, String.toList_ofList]
  induction diagnostics generalizing seen with
  | nil => rfl
  | cons diagnostic others ih =>
    have first := printable diagnostic List.mem_cons_self
    have next := fun other member => printable other (List.mem_cons_of_mem diagnostic member)
    rw [List.flatMap_cons, List.append_assoc, List.append_assoc, List.append_assoc,
      List.singleton_append, first.foldl_lines_append, ih next, List.reverse_cons,
      List.append_assoc, List.singleton_append]

/-- **Reading printed diagnostics.** Diagnostics are read back from what is printed for them, in
their order and with everything that they say, whether or not the last line ends with a newline.
This needs of each diagnostic that its code is `TS` and digits, that no line of its message ends in
a carriage return, that the lines behind the first neither are blank nor look like a first line,
that a file name is not empty, is in one line and has no `(line,column): severity code: ` inside,
that its numbers are not too large, and that without a place its first line does not look as if it
had one. -/
theorem parse_printed {diagnostics : List Diagnostic}
    (printable : ∀ diagnostic ∈ diagnostics, IsPrintable diagnostic) :
    parse (printed diagnostics) = diagnostics ∧
      ∀ text, text ++ "\n" = printed diagnostics → parse text = diagnostics := by
  constructor
  · have read := foldl_lines_printed_append printable [] []
    rw [List.append_nil, List.append_nil] at read
    rw [parse, read]
    exact List.reverse_reverse diagnostics
  · intro text ended
    have whole : text.toList ++ ['\n'] = (printed diagnostics).toList := by
      rw [← ended, String.toList_append]
      rfl
    rcases List.eq_nil_or_concat' diagnostics with rfl | ⟨others, last, rfl⟩
    · exact absurd whole (by simp [printed])
    · have rest : text.toList =
          (printed others).toList ++ (last.heading ++ last.message.toList) := by
        refine List.append_cancel_right (whole.trans ?_)
        simp [printed]
      have init := fun other member => printable other (List.mem_append_left [last] member)
      have lastPrintable := printable last (List.mem_append_right others List.mem_cons_self)
      rw [parse, rest, foldl_lines_printed_append init, lastPrintable.foldl_lines]
      simp

/-- A diagnostic for a file name with parentheses, with a message that quotes a diagnostic and goes
on in a second line. -/
def quotingDiagnostic : Diagnostic :=
  (ofHeadline ⟨.error, "TS2322".toList, "as b(1,1): error TS1: x\n  there".toList⟩).locatedAt
    (String.ofList "src/a (2,3).ts".toList) 3 7

/-- A diagnostic without a place. -/
def optionDiagnostic : Diagnostic :=
  ofHeadline ⟨.warning, "TS5023".toList, "unknown".toList⟩

/-- The two are read back from three lines. -/
theorem parse_printed_sample :
    parse ("src/a (2,3).ts(3,7): error TS2322: as b(1,1): error TS1: x\n  there\n" ++
      "warning TS5023: unknown\n") = [quotingDiagnostic, optionDiagnostic] := by
  have quoting : IsPrintable quotingDiagnostic := by
    refine .located ⟨⟨"2322".toList, ?_, rfl⟩, ?_, ?_⟩ ?_ ?_ ?_ ?_ ?_ <;> decide +kernel
  have option : IsPrintable optionDiagnostic := by
    refine .global ⟨⟨"5023".toList, ?_, rfl⟩, ?_, ?_⟩ ?_ <;> decide +kernel
  have both : ∀ diagnostic ∈ [quotingDiagnostic, optionDiagnostic], IsPrintable diagnostic := by
    simp [quoting, option]
  have text : "src/a (2,3).ts(3,7): error TS2322: as b(1,1): error TS1: x\n  there\n" ++
      "warning TS5023: unknown\n" = printed [quotingDiagnostic, optionDiagnostic] := by
    decide +kernel
  rw [text]
  exact (parse_printed both).1

end Diagnostic

end BundleFinish
