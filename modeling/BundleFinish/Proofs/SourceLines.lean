import BundleFinish.Proofs.DiagnosticBlocks
import Mathlib.Data.List.DropRight
import Mathlib.Data.List.Infix
import Mathlib.Data.String.Basic

/-! # Lines and columns of a source

A place in a source is told by a line and a column, and found again as an octet offset. Lines end at
newlines, and the carriage returns and the newline at the end of a line are no part of its content.
Counting the newlines and the characters in front of a place in the content of a line, and looking
for the place again, gives that place back; every line that a source has is found, and no other
(`lineColumnToOffset_inverts`). -/

namespace BundleFinish

/-! ## Lengths in octets -/

namespace Utf8

variable {a b text : List Char}

/-- The number of octets is what the core library counts. -/
theorem octetLength_eq_utf8Len (text : List Char) : octetLength text = String.utf8Len text := by
  induction text with
  | nil => rfl
  | cons c rest ih => rw [octetLength_cons, ih, String.utf8Len_cons, Nat.add_comm]

/-- The size of a text is the number of octets of its characters. -/
theorem utf8ByteSize_eq_octetLength (text : String) :
    text.utf8ByteSize = octetLength text.toList := by
  rw [octetLength_eq_utf8Len, ← String.utf8ByteSize_ofList, String.ofList_toList]

theorem octetLength_le_of_prefix (isPrefix : a <+: b) : octetLength a ≤ octetLength b := by
  rw [octetLength_eq_utf8Len, octetLength_eq_utf8Len]
  exact String.utf8Len_le_of_prefix isPrefix

/-- Of two fronts of a text, the one with fewer octets is a front of the other. -/
theorem prefix_of_octetLength_le (isFrontA : a <+: text) (isFrontB : b <+: text)
    (shorter : octetLength a ≤ octetLength b) : a <+: b := by
  rcases List.prefix_or_prefix_of_prefix isFrontA isFrontB with within | ⟨more, rfl⟩
  · exact within
  · -- The characters that `a` has more take no octets, so there are none.
    rw [octetLength_append] at shorter
    have none : octetLength more = 0 := by omega
    rw [octetLength_eq_utf8Len, String.utf8Len_eq_zero] at none
    rw [none, List.append_nil]

end Utf8

open Utf8

/-! ## The lines of a text -/

namespace Text

variable {text before content rest line : List Char}

/-- Nothing stands behind the last newline of a text, so that what is put behind the text begins a
line. -/
def EndsLine (text : List Char) : Prop := text = [] ∨ text.getLast? = some '\n'

instance : DecidablePred EndsLine := fun text =>
  inferInstanceAs (Decidable (text = [] ∨ text.getLast? = some '\n'))

/-- The number of lines that a text has: one for every newline, and one for what stands behind the
last newline, unless there is nothing. -/
def lineCount (text : List Char) : Nat := text.count '\n' + if EndsLine text then 0 else 1

/-- What stands behind a newline decides how a text ends. -/
theorem endsLine_append_newline : EndsLine (line ++ '\n' :: rest) ↔ EndsLine rest := by
  cases rest <;> simp [EndsLine, List.getLast?_append, List.getLast?_cons]

/-- A text without a newline is a line that goes on, unless it is empty. -/
theorem endsLine_iff_of_not_mem (single : '\n' ∉ text) : EndsLine text ↔ text = [] :=
  or_iff_left fun last => single (List.mem_of_getLast? last)

/-- A line and its newline have one newline. -/
theorem count_append_newline (single : '\n' ∉ line) (rest : List Char) :
    (line ++ '\n' :: rest).count '\n' = rest.count '\n' + 1 := by
  rw [List.count_append, List.count_cons_self, List.count_eq_zero.mpr single, Nat.zero_add]

/-- A line and its newline make one line more. -/
theorem lineCount_append_newline (single : '\n' ∉ line) (rest : List Char) :
    lineCount (line ++ '\n' :: rest) = lineCount rest + 1 := by
  rw [lineCount, lineCount, if_congr endsLine_append_newline rfl rfl,
    count_append_newline single, Nat.add_right_comm]

/-- A text without a newline is one line, unless it is empty. -/
theorem lineCount_of_not_mem (single : '\n' ∉ text) :
    lineCount text = if text = [] then 0 else 1 := by
  rw [lineCount, if_congr (endsLine_iff_of_not_mem single) rfl rfl,
    List.count_eq_zero.mpr single, Nat.zero_add]

/-- A text is split into its lines. -/
theorem length_splitInclusive (text : List Char) :
    (splitInclusive text).length = lineCount text := by
  induction text using lineInduction with
  | last line single =>
    rw [lineCount_of_not_mem single]
    split_ifs with empty
    · rw [empty]
      rfl
    · rw [splitInclusive_of_not_mem single empty]
      rfl
  | cons line rest single ih =>
    rw [splitInclusive_append_newline single, List.length_cons, ih,
      lineCount_append_newline single]

/-- **A line of a text**, between what stands around it. The content has no newline and does not end
with a carriage return; carriage returns can stand behind it, before the newline of the line. -/
structure TextLine where
  /-- All that stands in front of the line. -/
  before : List Char
  content : List Char
  /-- The number of carriage returns behind the content. -/
  returns : Nat
  /-- The newline of the line and all that stands behind it; empty for a line without a newline. -/
  rest : List Char

namespace TextLine

/-- The characters of a line in front of its newline. -/
def body (line : TextLine) : List Char := line.content ++ List.replicate line.returns '\r'

/-- The number of a line, counted from one. -/
def number (line : TextLine) : Nat := line.before.count '\n' + 1

/-- The octet offset at which a line starts. -/
def start (line : TextLine) : Nat := octetLength line.before

/-- The octet offset at which the content of a line ends. -/
def stop (line : TextLine) : Nat := octetLength (line.before ++ line.content)

/-- A line stands in a text: at its front or behind a newline, and up to the next newline or, where
something is left, to the end. -/
structure IsIn (line : TextLine) (text : List Char) : Prop where
  whole : text = line.before ++ (line.body ++ line.rest)
  begins : EndsLine line.before
  content : IsLine line.content
  ends : line.rest.head? = some '\n' ∨ line.rest = [] ∧ line.body ≠ []

end TextLine

/-! ## Contents -/

/-- Newlines and carriage returns behind the content of a line are no content. -/
theorem lineContent_append {content ending : List Char} (isLine : IsLine content)
    (isEnding : ∀ c ∈ ending, c = '\n' ∨ c = '\r') : lineContent (content ++ ending) = content := by
  have dropped : ∀ c ∈ ending.reverse, (c == '\n' || c == '\r') = true := by
    simpa using isEnding
  have kept : content.rdropWhile (fun c => c == '\n' || c == '\r') = content := by
    rw [List.rdropWhile_eq_self_iff]
    intro some
    have noNewline : content.getLast some ≠ '\n' := fun newline =>
      isLine.single (newline ▸ List.getLast_mem some)
    have noReturn : content.getLast some ≠ '\r' := fun isReturn =>
      isLine.noReturn (isReturn ▸ List.getLast?_eq_some_getLast some)
    simp [noNewline, noReturn]
  rw [lineContent, List.reverse_append, List.dropWhile_append_of_pos dropped]
  exact kept

/-- Every line is a content and carriage returns. -/
theorem exists_content_append_returns (single : '\n' ∉ line) :
    ∃ content returns, IsLine content ∧ line = content ++ List.replicate returns '\r' := by
  induction line using List.reverseRecOn with
  | nil => exact ⟨[], 0, ⟨single, by simp⟩, rfl⟩
  | append_singleton front c ih =>
    by_cases isReturn : c = '\r'
    · obtain ⟨content, returns, isLine, rfl⟩ := ih fun newline =>
        single (List.mem_append_left [c] newline)
      refine ⟨content, returns + 1, isLine, ?_⟩
      rw [isReturn, List.append_assoc, List.replicate_succ']
    · exact ⟨front ++ [c], 0, ⟨single, by simpa using isReturn⟩, (List.append_nil _).symm⟩

namespace TextLine

variable {line : TextLine}

/-- The newline of a line is not in its body. -/
theorem not_mem_body (isLine : IsLine line.content) : '\n' ∉ line.body := by
  simp [body, isLine.single]

/-- What is split off first of the text from a line on has the content of that line. -/
theorem IsIn.exists_splitInclusive (isIn : line.IsIn text) :
    ∃ piece others, splitInclusive (line.body ++ line.rest) = piece :: others ∧
      lineContent piece = line.content := by
  have single := not_mem_body isIn.content
  have isReturn : ∀ c ∈ List.replicate line.returns '\r', c = '\n' ∨ c = '\r' :=
    fun c member => .inr (List.eq_of_mem_replicate member)
  rcases isIn.ends with ended | ⟨last, some⟩
  · obtain ⟨after, shape⟩ := List.head?_eq_some_iff.mp ended
    refine ⟨line.body ++ ['\n'], splitInclusive after, ?_, ?_⟩
    · rw [shape, splitInclusive_append_newline single]
    · rw [body, List.append_assoc]
      refine lineContent_append isIn.content fun c member => ?_
      rcases List.mem_append.mp member with inReturns | isNewline
      · exact isReturn c inReturns
      · exact .inl (List.mem_singleton.mp isNewline)
  · refine ⟨line.body, [], ?_, lineContent_append isIn.content isReturn⟩
    rw [last, List.append_nil, splitInclusive_of_not_mem single some]

/-- The content of a line stands in the text, behind what is in front of the line. -/
theorem IsIn.prefix_content (isIn : line.IsIn text) :
    line.before ++ line.content <+: text := by
  rw [isIn.whole, TextLine.body, List.append_assoc, ← List.append_assoc]
  exact List.prefix_append _ _

/-- A part of the content of a line ends where the content ends, or in front of that. -/
theorem octetLength_le_stop {left : List Char} (inContent : left <+: line.content) :
    octetLength (line.before ++ left) ≤ line.stop :=
  octetLength_le_of_prefix ((List.prefix_append_right_inj _).mpr inContent)

/-- The content of a line of a source ends in the source. -/
theorem IsIn.stop_le {source : String} (isIn : line.IsIn source.toList) :
    line.stop ≤ source.utf8ByteSize := by
  rw [utf8ByteSize_eq_octetLength]
  exact octetLength_le_of_prefix isIn.prefix_content

/-- A front of a text that reaches into the content of a line is what stands in front of the line
and a part of the content. -/
theorem IsIn.exists_eq_append {front : List Char} (isIn : line.IsIn text)
    (isFront : front <+: text) (behindStart : line.start ≤ octetLength front)
    (beforeStop : octetLength front ≤ line.stop) :
    ∃ left, left <+: line.content ∧ front = line.before ++ left := by
  have toStart : line.before <+: text := (List.prefix_append _ _).trans isIn.prefix_content
  obtain ⟨left, rfl⟩ := prefix_of_octetLength_le toStart isFront behindStart
  have inContent := prefix_of_octetLength_le isFront isIn.prefix_content beforeStop
  exact ⟨left, (List.prefix_append_right_inj _).mp inContent, rfl⟩

/-- The content of a line has no newline to be counted. -/
theorem IsIn.count_append {left : List Char} (isIn : line.IsIn text)
    (inContent : left <+: line.content) :
    (line.before ++ left).count '\n' + 1 = line.number := by
  have single : '\n' ∉ left := fun newline => isIn.content.single (inContent.subset newline)
  rw [List.count_append, List.count_eq_zero.mpr single, Nat.add_zero, TextLine.number]

end TextLine

/-! ## Looking for a line -/

/-- The lines in front of a line are passed over. -/
theorem offsetInLines_append (begins : EndsLine before) (offset number column : Nat) :
    offsetInLines offset (splitInclusive (before ++ rest)) (before.count '\n' + (number + 1))
      column =
        offsetInLines (offset + octetLength before) (splitInclusive rest) (number + 1) column := by
  -- Each line in front takes one from the number and adds its octets to the offset.
  induction before using lineInduction generalizing offset with
  | last line single =>
    obtain rfl := (endsLine_iff_of_not_mem single).mp begins
    rw [List.nil_append, List.count_nil, Nat.zero_add]
    rfl
  | cons line others single ih =>
    have numbered : (line ++ '\n' :: others).count '\n' + (number + 1) =
        others.count '\n' + number + 2 := by
      rw [count_append_newline single]
      omega
    rw [numbered, List.append_assoc, List.cons_append, splitInclusive_append_newline single,
      offsetInLines, Nat.add_assoc, ih (endsLine_append_newline.mp begins), Nat.add_assoc,
      ← octetLength_append, List.append_assoc, List.singleton_append]

/-- A line is found under its number, and in it the place under a column. -/
theorem TextLine.IsIn.offsetInLines_eq {line : TextLine} (isIn : line.IsIn text) (column : Nat) :
    offsetInLines 0 (splitInclusive text) line.number column =
      some (octetLength (line.before ++ line.content.take (column - 1))) := by
  obtain ⟨piece, others, split, isContent⟩ := isIn.exists_splitInclusive
  rw [isIn.whole, TextLine.number, offsetInLines_append isIn.begins, split, offsetInLines,
    isContent, octetLength_append, Nat.zero_add]

/-- No place is found exactly under the number zero and behind the last line. -/
theorem offsetInLines_eq_none_iff (offset : Nat) (lines : List (List Char)) (number column : Nat) :
    offsetInLines offset lines number column = none ↔ number = 0 ∨ lines.length < number := by
  fun_induction offsetInLines offset lines number column with
  | case1 => simp; omega
  | case2 => simp
  | case3 => simp
  | case4 offset line others number column ih => rw [ih]; simp

/-- Every number up to the number of lines is that of a line. -/
theorem exists_isIn {number : Nat} (positive : 0 < number) (within : number ≤ lineCount text) :
    ∃ line : TextLine, line.IsIn text ∧ line.number = number := by
  induction text using lineInduction generalizing number with
  | last line single =>
    have counted := lineCount_of_not_mem single
    have some : line ≠ [] := by
      rintro rfl
      rw [counted, if_pos rfl] at within
      omega
    rw [counted, if_neg some] at within
    obtain ⟨content, returns, isLine, shape⟩ := exists_content_append_returns single
    refine ⟨⟨[], content, returns, []⟩, ⟨?_, .inl rfl, isLine, .inr ⟨rfl, ?_⟩⟩, ?_⟩
    · simpa [TextLine.body] using shape
    · rwa [TextLine.body, ← shape]
    · rw [TextLine.number, List.count_nil]
      omega
  | cons line others single ih =>
    rcases number with _ | _ | number
    · omega
    · obtain ⟨content, returns, isLine, shape⟩ := exists_content_append_returns single
      refine ⟨⟨[], content, returns, '\n' :: others⟩, ⟨?_, .inl rfl, isLine, .inl rfl⟩, rfl⟩
      rw [shape]
      rfl
    · rw [lineCount_append_newline single] at within
      obtain ⟨found, isIn, numbered⟩ := ih (Nat.succ_pos number) (Nat.le_of_succ_le_succ within)
      refine ⟨{ found with before := line ++ '\n' :: found.before },
        ⟨?_, endsLine_append_newline.mpr isIn.begins, isIn.content, isIn.ends⟩, ?_⟩
      · rw [isIn.whole]
        simp [TextLine.body]
      · rw [TextLine.number, count_append_newline single]
        exact congrArg Nat.succ numbered

end Text

open Text

/-! ## Looking for a place -/

section

variable {source : String} {number column offset : Nat}

/-- A place is found in the line with that number, behind the characters of its content that are in
front of the column. -/
theorem lineColumnToOffset_eq_some_iff :
    lineColumnToOffset source number column = some offset ↔
      ∃ line : TextLine, line.IsIn source.toList ∧ line.number = number ∧
        octetLength (line.before ++ line.content.take (column - 1)) = offset := by
  constructor
  · intro found
    have numbered : ¬(number = 0 ∨ (splitInclusive source.toList).length < number) := by
      rw [← offsetInLines_eq_none_iff 0 _ number column, ← lineColumnToOffset, found]
      exact Option.some_ne_none offset
    rw [length_splitInclusive, not_or] at numbered
    obtain ⟨line, isIn, rfl⟩ :=
      exists_isIn (Nat.pos_of_ne_zero numbered.1) (Nat.le_of_not_lt numbered.2)
    exact ⟨line, isIn, rfl, Option.some.inj ((isIn.offsetInLines_eq column).symm.trans found)⟩
  · rintro ⟨line, isIn, rfl, rfl⟩
    exact isIn.offsetInLines_eq column

/-- **Places by line and column.** The newlines and the characters of the line that stand in front
of a place in the content of a line lead back to it. Under every number from one to the number of
lines a place is found, and under no other. It lies in the content of the line with that number: at
its start for the first column, at its end for a column behind it, and never further to the front
for a larger column. -/
theorem lineColumnToOffset_inverts (source : String) :
    (∀ (line : TextLine) (front : List Char), line.IsIn source.toList → front <+: source.toList →
      line.start ≤ octetLength front → octetLength front ≤ line.stop →
        lineColumnToOffset source (front.count '\n' + 1) (front.length - line.before.length + 1) =
          some (octetLength front)) ∧
    (∀ number column, lineColumnToOffset source number column = none ↔
      number = 0 ∨ lineCount source.toList < number) ∧
    (∀ number column offset, lineColumnToOffset source number column = some offset →
      ∃ line : TextLine, line.IsIn source.toList ∧ line.number = number ∧
        (∃ left, left <+: line.content ∧ offset = octetLength (line.before ++ left)) ∧
        offset ≤ source.utf8ByteSize ∧ (column ≤ 1 → offset = line.start) ∧
        (line.content.length < column → offset = line.stop)) ∧
    ∀ number column column' offset offset', column ≤ column' →
      lineColumnToOffset source number column = some offset →
      lineColumnToOffset source number column' = some offset' → offset ≤ offset' := by
  refine ⟨?_, ?_, ?_, ?_⟩
  · intro line front isIn isFront behindStart beforeStop
    obtain ⟨left, inContent, rfl⟩ := isIn.exists_eq_append isFront behindStart beforeStop
    rw [lineColumnToOffset_eq_some_iff]
    refine ⟨line, isIn, (isIn.count_append inContent).symm, ?_⟩
    rw [Nat.add_sub_cancel, List.length_append, Nat.add_sub_cancel_left,
      ← List.prefix_iff_eq_take.mp inContent]
  · intro number column
    rw [lineColumnToOffset, offsetInLines_eq_none_iff, length_splitInclusive]
  · intro number column offset found
    obtain ⟨line, isIn, numbered, rfl⟩ := lineColumnToOffset_eq_some_iff.mp found
    refine ⟨line, isIn, numbered, ⟨_, List.take_prefix _ _, rfl⟩, ?_, ?_, ?_⟩
    · exact (TextLine.octetLength_le_stop (List.take_prefix _ _)).trans isIn.stop_le
    · intro first
      rw [Nat.sub_eq_zero_of_le first, List.take_zero, List.append_nil, TextLine.start]
    · intro behind
      rw [List.take_of_length_le (Nat.le_sub_one_of_lt behind), TextLine.stop]
  · intro number column column' offset offset' further found found'
    obtain ⟨line, isIn, rfl, rfl⟩ := lineColumnToOffset_eq_some_iff.mp found
    obtain rfl := Option.some.inj ((isIn.offsetInLines_eq column').symm.trans found')
    have more : line.content.take (column - 1) <+: line.content.take (column' - 1) :=
      List.take_prefix_take_left (Nat.sub_le_sub_right further 1)
    exact octetLength_le_of_prefix ((List.prefix_append_right_inj _).mpr more)

/-- A source with several octets in a character, several carriage returns at the end of a line, an
empty line, and no newline at its end. -/
def mixedSource : String := "\té;\r\r\n\nxÿ\r"

/-- Its last line. -/
def mixedLine : TextLine := ⟨"\té;\r\r\n\n".toList, "xÿ".toList, 1, []⟩

theorem lineColumnToOffset_inverts_sample :
    mixedLine.IsIn mixedSource.toList ∧ lineColumnToOffset mixedSource 3 2 = some 9 ∧
      (∃ line : TextLine, line.IsIn mixedSource.toList ∧ line.number = 3 ∧ 8 = line.start) ∧
      9 ≤ 11 := by
  obtain ⟨inverts, -, sound, monotone⟩ := lineColumnToOffset_inverts mixedSource
  have isIn : mixedLine.IsIn mixedSource.toList :=
    ⟨by decide +kernel, by decide +kernel, ⟨by decide +kernel, by decide +kernel⟩,
      by decide +kernel⟩
  have isFront : "\té;\r\r\n\nx".toList <+: mixedSource.toList := by decide +kernel
  have inside : lineColumnToOffset mixedSource 3 2 = some 9 :=
    inverts mixedLine _ isIn isFront (by decide +kernel) (by decide +kernel)
  have first : lineColumnToOffset mixedSource 3 1 = some 8 := by decide +kernel
  have behind : lineColumnToOffset mixedSource 3 9 = some 11 := by decide +kernel
  obtain ⟨line, isLine, numbered, -, -, atStart, -⟩ := sound 3 1 8 first
  exact ⟨isIn, inside, ⟨line, isLine, numbered, atStart le_rfl⟩,
    monotone 3 2 9 9 11 (by decide) inside behind⟩

end

end BundleFinish
