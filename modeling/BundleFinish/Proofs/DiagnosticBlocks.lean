import BundleFinish.Proofs.DiagnosticPatterns
import BundleFinish.Proofs.PrintedDiagnostics
import Mathlib.Data.List.Forall2
import Mathlib.Data.List.SplitBy

/-! # Diagnostics as blocks of lines

What a type-checker printed is read line by line, but it can be told without the state of the
reader: the lines that are not blank fall into blocks, one for each diagnostic and in their order,
and a block ends where the next line matches a pattern. The first line of a block says what the
patterns capture, the others are added to its message as they are (`parse_eq_iff_accounts`). So no
line is lost or read twice, and outputs can be put together (`parse_append_newline_append`). -/

namespace BundleFinish

open Text

/-! ## Lines -/

namespace Text

/-- Texts are made line by line: one without a newline is a last line, and a text can follow a line
and its newline. -/
@[elab_as_elim]
theorem lineInduction {motive : List Char → Prop}
    (last : ∀ line, '\n' ∉ line → motive line)
    (cons : ∀ line rest, '\n' ∉ line → motive rest → motive (line ++ '\n' :: rest))
    (text : List Char) : motive text := by
  by_cases ended : '\n' ∈ text
  · obtain ⟨line, rest, whole, single⟩ := List.eq_append_cons_of_mem ended
    have shorter : rest.length < text.length := by
      rw [whole, List.length_append, List.length_cons]
      omega
    rw [whole]
    exact cons line rest single (lineInduction last cons rest)
  · exact last text ended
termination_by text.length

/-- Without its line end, a line has no other characters. -/
theorem mem_of_mem_dropLineEnd {line : List Char} {c : Char}
    (member : c ∈ dropLineEnd (line ++ ['\n'])) : c ∈ line := by
  by_cases ended : line.getLast? = some '\r'
  · obtain ⟨front, rfl⟩ := List.getLast?_eq_some_iff.mp ended
    have dropped : dropLineEnd (front ++ ['\r'] ++ ['\n']) = front := by simp [dropLineEnd]
    rw [dropped] at member
    exact List.mem_append_left ['\r'] member
  · rwa [dropLineEnd_append_newline ended] at member

/-- No line has a newline. -/
theorem not_mem_of_mem_lines {text line : List Char} (member : line ∈ lines text) :
    '\n' ∉ line := by
  induction text using lineInduction with
  | last text single =>
    by_cases empty : text = []
    · rw [empty] at member
      cases member
    · rw [lines_of_not_mem single empty, List.mem_singleton] at member
      rwa [member]
  | cons first rest single ih =>
    rw [lines_cons_newline single, List.mem_cons] at member
    rcases member with rfl | member
    · exact fun newline => single (mem_of_mem_dropLineEnd newline)
    · exact ih member

/-- A line end is white space. -/
theorem isBlankText_dropLineEnd (piece : List Char) :
    isBlankText (dropLineEnd piece) = isBlankText piece := by
  have reversed : isBlankText piece = isBlankText piece.reverse := List.all_reverse.symm
  unfold dropLineEnd
  split
  case h_1 before same =>
    rw [reversed, same, isBlankText, isBlankText, List.all_reverse]
    simp [isBlank]
  case h_2 before _ same =>
    rw [reversed, same, isBlankText, isBlankText, List.all_reverse]
    simp [isBlank]
  case h_3 => rfl

/-- A text is blank where all of its lines are. -/
theorem isBlankText_eq_all_lines (text : List Char) :
    isBlankText text = (lines text).all isBlankText := by
  have blank : ∀ piece, (isBlankText ∘ dropLineEnd) piece = isBlankText piece :=
    isBlankText_dropLineEnd
  rw [lines, List.all_map, funext blank, ← flatten_splitInclusive text, isBlankText,
    List.all_flatten, flatten_splitInclusive]
  rfl

/-- Apart from blank lines, texts with a newline between them have their lines one after the
other; a carriage return in front of that newline would be lost. -/
theorem filter_lines_append {before : List Char} (noReturn : before.getLast? ≠ some '\r')
    (rest : List Char) :
    (lines (before ++ '\n' :: rest)).filter (!isBlankText ·) =
      (lines before).filter (!isBlankText ·) ++ (lines rest).filter (!isBlankText ·) := by
  induction before using lineInduction with
  | last line single =>
    rw [lines_append_newline ⟨single, noReturn⟩]
    by_cases empty : line = []
    -- An empty line has been added, which is blank.
    · rw [empty]
      rfl
    · rw [lines_of_not_mem single empty, ← List.singleton_append, List.filter_append]
  | cons line others single ih =>
    have noReturn' : others.getLast? ≠ some '\r' := by
      rcases others with _ | ⟨c, others⟩
      · simp
      · simpa using noReturn
    rw [List.append_assoc, List.cons_append, lines_cons_newline single, lines_cons_newline single,
      List.filter_cons, List.filter_cons, ih noReturn']
    split_ifs
    · rw [List.cons_append]
    · rfl

end Text

namespace Diagnostic

open Pattern

/-! ## Lines that are not blank -/

/-- Nothing has been read behind a line only if there was nothing before it and it is blank. -/
theorem readLine_eq_nil_iff {seen : List Diagnostic} {line : List Char} :
    readLine seen line = [] ↔ seen = [] ∧ isBlankText line = true := by
  unfold readLine
  by_cases blank : isBlankText line = true
  · simp [blank]
  · rw [if_neg blank]
    split <;> simp [blank]

/-- Nothing is read from lines only if all of them are blank. -/
theorem foldl_readLine_eq_nil_iff {lines : List (List Char)} {seen : List Diagnostic} :
    lines.foldl readLine seen = [] ↔ seen = [] ∧ ∀ line ∈ lines, isBlankText line = true := by
  induction lines generalizing seen with
  | nil => simp
  | cons line others ih =>
    rw [List.foldl_cons, ih, readLine_eq_nil_iff, List.forall_mem_cons, and_assoc]

/-- A text without diagnostics is one that is blank. -/
theorem parse_eq_nil_iff {text : String} :
    parse text = [] ↔ isBlankText text.toList = true := by
  rw [parse, List.reverse_eq_nil_iff, foldl_readLine_eq_nil_iff, isBlankText_eq_all_lines,
    List.all_eq_true, and_iff_right rfl]

/-- Blank lines are passed over. -/
theorem foldl_readLine_filter (lines : List (List Char)) (seen : List Diagnostic) :
    (lines.filter (!isBlankText ·)).foldl readLine seen = lines.foldl readLine seen := by
  induction lines generalizing seen with
  | nil => rfl
  | cons line others ih =>
    by_cases blank : isBlankText line = true
    · have passed : readLine seen line = seen := if_pos blank
      rw [List.filter_cons_of_neg (by simp [blank]), ih, List.foldl_cons, passed]
    · rw [List.filter_cons_of_pos (by simp [blank]), List.foldl_cons, List.foldl_cons, ih]

/-- The lines of a text that are not blank. -/
def saidLines (text : String) : List (List Char) :=
  (lines text.toList).filter (!isBlankText ·)

/-- What is read from a text is read from its lines that are not blank. -/
theorem parse_eq_foldl_saidLines (text : String) :
    parse text = ((saidLines text).foldl readLine []).reverse := by
  rw [parse, saidLines, foldl_readLine_filter]

/-! ## Numbers -/

section

variable {digits : List Char}

/-- Digits of ASCII are read as the number they stand for, up to the largest. -/
theorem number_of_ascii (ascii : ∀ c ∈ digits, c.isDigit = true)
    (fits : Nat.ofDigitChars 10 digits 0 ≤ 4294967295) :
    number digits = Nat.ofDigitChars 10 digits 0 := by
  simp only [number, boundedNumber?, List.all_eq_true, digitsValue_eq_ofDigitChars, maxNumber]
  rcases digits with _ | ⟨c, others⟩
  · simp
  · rw [if_pos ⟨List.cons_ne_nil c others, ascii, fits⟩, Option.getD_some]

/-- Other digits are read as zero. -/
theorem number_eq_zero (refused : ¬((∀ c ∈ digits, c.isDigit = true) ∧
    Nat.ofDigitChars 10 digits 0 ≤ 4294967295)) : number digits = 0 := by
  simp only [number, boundedNumber?, List.all_eq_true, digitsValue_eq_ofDigitChars, maxNumber]
  rw [if_neg fun read => refused read.2, Option.getD_none]

end

/-- **Numbers of lines and columns** are what their digits stand for, or zero: zero where a digit
is not one of ASCII, and where the number is too large. -/
theorem number_cases (digits : List Char) :
    ((∀ c ∈ digits, c.isDigit = true) ∧ Nat.ofDigitChars 10 digits 0 ≤ 4294967295 ∧
        number digits = Nat.ofDigitChars 10 digits 0) ∨
      (((∃ c ∈ digits, c.isDigit = false) ∨ 4294967295 < Nat.ofDigitChars 10 digits 0) ∧
        number digits = 0) := by
  by_cases ascii : ∀ c ∈ digits, c.isDigit = true
  · rcases Nat.lt_or_ge 4294967295 (Nat.ofDigitChars 10 digits 0) with large | fits
    · exact .inr ⟨.inr large, number_eq_zero fun read => Nat.not_lt.mpr read.2 large⟩
    · exact .inl ⟨ascii, fits, number_of_ascii ascii fits⟩
  · have foreign : ∃ c ∈ digits, c.isDigit = false := by simpa using ascii
    exact .inr ⟨.inl foreign, number_eq_zero fun read => ascii read.1⟩

/-! ## Headings -/

/-- The severity that a captured word means. -/
def severityOf (word : List Char) : Severity :=
  if word = Severity.warning.word then .warning else .error

@[simp] theorem severityOf_word (severity : Severity) : severityOf severity.word = severity := by
  rcases severity with _ | _ <;> decide

/-- The first line of a diagnostic, told by the patterns. -/
def IsHeading (line : List Char) : Prop :=
  (locatedMatcher.captures? line).isSome ∨ (globalMatcher.captures? line).isSome

instance (line : List Char) : Decidable (IsHeading line) :=
  inferInstanceAs (Decidable (_ ∨ _))

/-- What a first line says, told by what the patterns capture. The pattern with a place goes
first. -/
inductive Starts (line : List Char) : Diagnostic → Prop
  /-- A place and a headline. -/
  | located {file row column word code message : List Char}
      (captured : locatedMatcher.captures? line =
        some [(6, message), (5, code), (4, word), (3, column), (2, row), (1, file)]) :
      Starts line ((ofHeadline ⟨severityOf word, code, message⟩).locatedAt (String.ofList file)
        (number row) (number column))
  /-- A headline alone. -/
  | global {word code message : List Char} (other : locatedMatcher.captures? line = none)
      (captured : globalMatcher.captures? line = some [(3, message), (2, code), (1, word)]) :
      Starts line (ofHeadline ⟨severityOf word, code, message⟩)

section

variable {line : List Char} {diagnostic : Diagnostic}

/-- A line that starts a diagnostic is read as what the patterns capture. -/
theorem starts_iff (single : '\n' ∉ line) :
    Starts line diagnostic ↔ ofLine? line = some diagnostic := by
  have place := captures?_locatedMatcher single
  have plain := captures?_globalMatcher single
  rw [ofLine?]
  constructor
  · rintro (@⟨file, row, column, word, code, message, captured⟩ | ⟨other, captured⟩)
    · rw [captured, eq_comm, Option.map_eq_some_iff] at place
      obtain ⟨⟨file, position, headline⟩, found, groups⟩ := place
      rw [found]
      cases groups
      simp
    · rw [other, eq_comm, Option.map_eq_none_iff] at place
      rw [captured, eq_comm, Option.map_eq_some_iff] at plain
      obtain ⟨headline, found, groups⟩ := plain
      rw [place, found]
      cases groups
      simp
  · intro read
    rcases found : located? line with _ | ⟨file, position, headline⟩
    · rw [found] at read place
      obtain ⟨headline, found, rfl⟩ := Option.map_eq_some_iff.mp read
      rw [found] at plain
      simpa using Starts.global place plain
    · rw [found] at read place
      cases read
      simpa using Starts.located place

/-- Lines that are no headings start no diagnostic. -/
theorem not_isHeading_iff (single : '\n' ∉ line) : ¬IsHeading line ↔ ofLine? line = none := by
  rw [IsHeading, captures?_locatedMatcher single, captures?_globalMatcher single,
    Option.isSome_map, Option.isSome_map, ofLine?]
  rcases located? line with _ | _ <;> rcases headline? line with _ | _ <;> simp

/-- Headings do. -/
theorem IsHeading.exists_starts (heading : IsHeading line) (single : '\n' ∉ line) :
    ∃ diagnostic, Starts line diagnostic := by
  obtain ⟨diagnostic, read⟩ := Option.ne_none_iff_exists'.mp fun none =>
    (not_isHeading_iff single).mpr none heading
  exact ⟨diagnostic, (starts_iff single).mpr read⟩

/-- The headings of a text have one of two forms. -/
theorem isHeading_iff_isLocated_or_isGlobal (single : '\n' ∉ line) :
    IsHeading line ↔ IsLocated line ∨ IsGlobal line := by
  rw [← not_iff_not, not_isHeading_iff single, ofLine?_eq_none_iff, not_or]

end

/-! ## Blocks -/

/-- The lines of one diagnostic, and the diagnostic. -/
inductive IsBlock : List (List Char) → Diagnostic → Prop
  /-- A heading and the lines that go on with its message. -/
  | headed {first : List Char} {others : List (List Char)} {diagnostic : Diagnostic}
      (starts : Starts first diagnostic) (goesOn : ∀ line ∈ others, ¬IsHeading line) :
      IsBlock (first :: others) (diagnostic.goOn others)
  /-- Without a heading, the first line is trimmed, and is an error. -/
  | stray {first : List Char} {others : List (List Char)} (bare : ¬IsHeading first)
      (goesOn : ∀ line ∈ others, ¬IsHeading line) :
      IsBlock (first :: others) ((error (String.ofList (trimChars first))).goOn others)

/-- Lines make up blocks, one for each diagnostic and in the same order. Only the first block can
do without a heading. -/
structure Accounts (blocks : List (List (List Char))) (said : List (List Char))
    (diagnostics : List Diagnostic) : Prop where
  whole : blocks.flatten = said
  read : List.Forall₂ IsBlock blocks diagnostics
  headed : ∀ block ∈ blocks.tail, ∀ first ∈ block.head?, IsHeading first

section

variable {line : List Char} {others : List (List Char)} {diagnostic : Diagnostic}
  {blocks : List (List (List Char))} {block said : List (List Char)}
  {seen diagnostics : List Diagnostic}

/-! ## One account -/

/-- A line starts at most one diagnostic. -/
theorem Starts.unique {diagnostic' : Diagnostic} (starts : Starts line diagnostic)
    (starts' : Starts line diagnostic') : diagnostic = diagnostic' := by
  rcases starts with captured | ⟨other, captured⟩ <;>
    rcases starts' with captured' | ⟨other', captured'⟩
  · cases captured.symm.trans captured'
    rfl
  · cases captured.symm.trans other'
  · cases captured'.symm.trans other
  · cases captured.symm.trans captured'
    rfl

/-- A line that starts a diagnostic is a heading. -/
theorem Starts.isHeading (starts : Starts line diagnostic) : IsHeading line := by
  rcases starts with captured | ⟨-, captured⟩
  · exact .inl (by rw [captured]; rfl)
  · exact .inr (by rw [captured]; rfl)

/-- Only the first line of a block can be a heading. -/
theorem IsBlock.exists_cons (isBlock : IsBlock block diagnostic) :
    ∃ first others, block = first :: others ∧ ∀ line ∈ others, ¬IsHeading line := by
  cases isBlock with
  | headed _ goesOn => exact ⟨_, _, rfl, goesOn⟩
  | stray _ goesOn => exact ⟨_, _, rfl, goesOn⟩

/-- A block is read as one diagnostic only. -/
theorem IsBlock.unique : Relator.RightUnique IsBlock := by
  rintro block diagnostic diagnostic' (⟨starts, _⟩ | ⟨bare, _⟩) isBlock'
  · rcases isBlock' with ⟨starts', _⟩ | ⟨bare', _⟩
    · rw [starts.unique starts']
    · exact absurd starts.isHeading bare'
  · rcases isBlock' with ⟨starts', _⟩ | ⟨bare', _⟩
    · exact absurd starts'.isHeading bare
    · rfl

/-- The blocks are found by a cut in front of every heading. -/
theorem Accounts.splitBy_eq (accounts : Accounts blocks said diagnostics) :
    said.splitBy (fun _ next => !decide (IsHeading next)) = blocks := by
  have areBlocks : ∀ block ∈ blocks,
      ∃ first others, block = first :: others ∧ ∀ line ∈ others, ¬IsHeading line :=
    ((List.forall₂_and_left blocks diagnostics).mp
      (accounts.read.imp fun _ _ isBlock => ⟨isBlock.exists_cons, isBlock⟩)).1
  -- Whether two lines stay together depends on the second one only, which comes behind another.
  rw [List.splitBy_eq_iff]
  refine ⟨accounts.whole.symm, fun member => ?_, fun block member => ?_, ?_⟩
  · obtain ⟨_, _, same, -⟩ := areBlocks [] member
    cases same
  · obtain ⟨first, others, rfl, goesOn⟩ := areBlocks block member
    refine (List.isChain_isInfix (first :: others)).imp_of_mem_tail_imp fun _ next _ inTail _ => ?_
    simpa using goesOn next inTail
  · refine (List.isChain_isInfix blocks).imp_of_mem_tail_imp fun block next member inTail _ => ?_
    obtain ⟨last, more, rfl, -⟩ := areBlocks block member
    obtain ⟨first, others, rfl, -⟩ := areBlocks next (List.mem_of_mem_tail inTail)
    have heading : IsHeading first := accounts.headed _ inTail first rfl
    exact ⟨List.cons_ne_nil last more, List.cons_ne_nil first others, by simp [heading]⟩

/-- Lines have one account at most. -/
theorem Accounts.unique {blocks' : List (List (List Char))} {diagnostics' : List Diagnostic}
    (accounts : Accounts blocks said diagnostics) (accounts' : Accounts blocks' said diagnostics') :
    blocks = blocks' ∧ diagnostics = diagnostics' := by
  have same : blocks = blocks' := accounts.splitBy_eq.symm.trans accounts'.splitBy_eq
  subst same
  exact ⟨rfl, IsBlock.unique.forall₂ accounts.read accounts'.read⟩

/-! ## The account of the reader -/

/-- A line that is read: one of a text, and not blank. -/
structure IsSaid (line : List Char) : Prop where
  single : '\n' ∉ line
  loud : isBlankText line = false

theorem isSaid_of_mem_saidLines {text : String} (member : line ∈ saidLines text) :
    IsSaid line := by
  obtain ⟨inText, loud⟩ := List.mem_filter.mp member
  exact ⟨not_mem_of_mem_lines inText, by simpa using loud⟩

/-- A heading starts a diagnostic. -/
theorem readLine_of_starts (isSaid : IsSaid line) (starts : Starts line diagnostic) :
    readLine seen line = diagnostic :: seen := by
  unfold readLine
  rw [if_neg (by simp [isSaid.loud]), (starts_iff isSaid.single).mp starts]

/-- Any other line goes on with the last diagnostic. -/
theorem readLine_cons_of_not_isHeading (isSaid : IsSaid line) (goesOn : ¬IsHeading line) :
    readLine (diagnostic :: seen) line = diagnostic.goOn [line] :: seen :=
  readLine_of_ofLine?_eq_none isSaid.loud ((not_isHeading_iff isSaid.single).mp goesOn) _ _

/-- Where there is no diagnostic yet, it is one. -/
theorem readLine_nil_of_not_isHeading (isSaid : IsSaid line) (bare : ¬IsHeading line) :
    readLine [] line = [error (String.ofList (trimChars line))] := by
  unfold readLine
  rw [if_neg (by simp [isSaid.loud]), (not_isHeading_iff isSaid.single).mp bare]

/-- A line that is no heading can be added to a block. -/
theorem IsBlock.concat (isBlock : IsBlock block diagnostic) (goesOn : ¬IsHeading line) :
    IsBlock (block ++ [line]) (diagnostic.goOn [line]) := by
  have all : ∀ {others : List (List Char)}, (∀ line ∈ others, ¬IsHeading line) →
      ∀ other ∈ others ++ [line], ¬IsHeading other := by
    intro others before
    rw [List.forall_mem_append]
    exact ⟨before, List.forall_mem_singleton.mpr goesOn⟩
  cases isBlock with
  | headed starts before =>
    rw [goOn_goOn]
    exact .headed starts (all before)
  | stray bare before =>
    rw [goOn_goOn]
    exact .stray bare (all before)

/-- Where one block is added at the end, one more block comes behind the first. -/
theorem mem_tail_concat {blocks : List (List (List Char))} {block other : List (List Char)} :
    block ∈ (blocks ++ [other]).tail ↔ blocks ≠ [] ∧ (block ∈ blocks.tail ∨ block = other) := by
  rcases blocks with _ | ⟨first, others⟩ <;> simp

/-- **Reading a line** keeps an account: a heading opens a block, and any other line is the next of
the last block, or the first of all. -/
theorem Accounts.exists_readLine (accounts : Accounts blocks.reverse said seen.reverse)
    (isSaid : IsSaid line) :
    ∃ blocks' : List (List (List Char)),
      Accounts blocks'.reverse (said ++ [line]) (readLine seen line).reverse := by
  obtain ⟨whole, read, headed⟩ := accounts
  rw [List.forall₂_reverse_iff] at read
  by_cases heading : IsHeading line
  · obtain ⟨diagnostic, starts⟩ := heading.exists_starts isSaid.single
    have isBlock : IsBlock [line] diagnostic := by
      simpa using IsBlock.headed starts (List.forall_mem_nil _)
    refine ⟨[line] :: blocks, by simp [← whole], ?_, fun block member => ?_⟩
    · rw [readLine_of_starts isSaid starts, List.forall₂_reverse_iff]
      exact .cons isBlock read
    -- The new block has a heading, so it may come behind others.
    · rw [List.reverse_cons, mem_tail_concat] at member
      rcases member.2 with before | rfl
      · exact headed block before
      · simpa using heading
  · cases read with
    | nil =>
      have isBlock : IsBlock [line] (error (String.ofList (trimChars line))) := by
        simpa using IsBlock.stray heading (List.forall_mem_nil _)
      refine ⟨[[line]], by simp [← whole], ?_, by simp⟩
      rw [readLine_nil_of_not_isHeading isSaid heading, List.forall₂_reverse_iff]
      exact .cons isBlock .nil
    | @cons last diagnostic earlier others isBlock read =>
      refine ⟨(last ++ [line]) :: earlier, by simp [← whole], ?_, fun block member => ?_⟩
      · rw [readLine_cons_of_not_isHeading isSaid heading, List.forall₂_reverse_iff]
        exact .cons (isBlock.concat heading) read
      · rw [List.reverse_cons] at headed member
        obtain ⟨some, before | rfl⟩ := mem_tail_concat.mp member
        · exact headed block (mem_tail_concat.mpr ⟨some, .inl before⟩)
        · -- The block has grown at its end, so its first line is the same.
          obtain ⟨first, others, rfl, -⟩ := isBlock.exists_cons
          exact headed (first :: others) (mem_tail_concat.mpr ⟨some, .inr rfl⟩)

/-- What is read from lines has an account. -/
theorem exists_accounts (areSaid : ∀ line ∈ said, IsSaid line) :
    ∃ blocks, Accounts blocks said (said.foldl readLine []).reverse := by
  have reversed : ∃ blocks : List (List (List Char)),
      Accounts blocks.reverse said (said.foldl readLine []).reverse := by
    -- The state of the reader belongs to the lines so far, so the last line is taken off first.
    induction said using List.reverseRecOn with
    | nil => exact ⟨[], rfl, .nil, by simp⟩
    | append_singleton before line ih =>
      obtain ⟨areSaid, isSaid⟩ := List.forall_mem_append.mp areSaid
      obtain ⟨blocks, accounts⟩ := ih areSaid
      rw [List.foldl_append]
      exact accounts.exists_readLine (isSaid line (List.mem_singleton_self line))
  obtain ⟨blocks, accounts⟩ := reversed
  exact ⟨blocks.reverse, accounts⟩

end

/-! ## Outputs one after the other -/

/-- What was read before the last diagnostic is left as it is. -/
theorem readLine_append {read : List Diagnostic} (some : read ≠ []) (line : List Char)
    (seen : List Diagnostic) : readLine (read ++ seen) line = readLine read line ++ seen := by
  obtain ⟨last, before, rfl⟩ := List.exists_cons_of_ne_nil some
  rw [List.cons_append]
  unfold readLine
  split_ifs
  · rfl
  · rcases ofLine? line with _ | diagnostic <;> rfl

theorem foldl_readLine_append {read : List Diagnostic} (some : read ≠ [])
    (lines : List (List Char)) (seen : List Diagnostic) :
    lines.foldl readLine (read ++ seen) = lines.foldl readLine read ++ seen := by
  induction lines generalizing read with
  | nil => rfl
  | cons line others ih =>
    have some' : readLine read line ≠ [] := fun none => some (readLine_eq_nil_iff.mp none).1
    rw [List.foldl_cons, readLine_append some, ih some', List.foldl_cons]

/-- From a heading on, nothing depends on what was read before. -/
theorem foldl_readLine_of_isHeading {first : List Char} (isSaid : IsSaid first)
    (heading : IsHeading first) (others : List (List Char)) (seen : List Diagnostic) :
    (first :: others).foldl readLine seen = (first :: others).foldl readLine [] ++ seen := by
  obtain ⟨diagnostic, starts⟩ := heading.exists_starts isSaid.single
  rw [List.foldl_cons, List.foldl_cons, readLine_of_starts isSaid starts,
    readLine_of_starts isSaid starts, ← List.singleton_append,
    foldl_readLine_append (List.cons_ne_nil diagnostic [])]

/-- **Outputs with a newline between them** are read one by one, where the second starts with a
heading and the newline does not take a carriage return from the first. -/
theorem parse_append_newline_append {before rest : String}
    (noReturn : before.toList.getLast? ≠ some '\r')
    (heads : ∀ first ∈ (saidLines rest).head?, IsHeading first) :
    parse (before ++ "\n" ++ rest) = parse before ++ parse rest := by
  have said : saidLines (before ++ "\n" ++ rest) = saidLines before ++ saidLines rest := by
    rw [saidLines, saidLines, saidLines, ← filter_lines_append noReturn]
    simp
  rw [parse_eq_foldl_saidLines, parse_eq_foldl_saidLines, parse_eq_foldl_saidLines, said,
    List.foldl_append]
  rcases whole : saidLines rest with _ | ⟨first, others⟩
  · simp
  · have isSaid : IsSaid first := isSaid_of_mem_saidLines (whole ▸ List.mem_cons_self)
    rw [whole] at heads
    rw [foldl_readLine_of_isHeading isSaid (heads first rfl), List.reverse_append]

/-! ## The result -/

/-- What is read from a text has an account. -/
theorem exists_accounts_parse (text : String) :
    ∃ blocks, Accounts blocks (saidLines text) (parse text) := by
  rw [parse_eq_foldl_saidLines]
  exact exists_accounts fun _ => isSaid_of_mem_saidLines

/-- What the lines of a text have an account for is read from it. -/
theorem Accounts.parse_eq {text : String} {blocks : List (List (List Char))}
    {diagnostics : List Diagnostic} (accounts : Accounts blocks (saidLines text) diagnostics) :
    parse text = diagnostics := by
  obtain ⟨blocks', accounts'⟩ := exists_accounts_parse text
  exact (accounts'.unique accounts).2

/-- What is read from a text is the one thing that its lines have an account for. -/
theorem parse_eq_iff_accounts {text : String} {diagnostics : List Diagnostic} :
    parse text = diagnostics ↔ ∃! blocks, Accounts blocks (saidLines text) diagnostics := by
  constructor
  · rintro rfl
    obtain ⟨blocks, accounts⟩ := exists_accounts_parse text
    exact ⟨blocks, accounts, fun _ other => (other.unique accounts).1⟩
  · rintro ⟨_, accounts, -⟩
    exact accounts.parse_eq

/-- **No line is lost or read twice.** The lines of a text that are not blank have just one account,
by blocks, and it is for what is read (`Accounts`); nothing is read exactly where all lines are
blank; outputs can be put together; and numbers are never cut. The patterns that tell headings are
what their texts say. -/
theorem parse_blocks :
    (∀ (text : String) (diagnostics : List Diagnostic),
      parse text = diagnostics ↔ ∃! blocks, Accounts blocks (saidLines text) diagnostics) ∧
    (∀ text : String, parse text = [] ↔ ∀ line ∈ lines text.toList, isBlankText line = true) ∧
    (∀ before rest : String, before.toList.getLast? ≠ some '\r' →
      (∀ first ∈ (saidLines rest).head?, IsHeading first) →
        parse (before ++ "\n" ++ rest) = parse before ++ parse rest) ∧
    (∀ digits : List Char,
      ((∀ c ∈ digits, c.isDigit = true) ∧ Nat.ofDigitChars 10 digits 0 ≤ 4294967295 ∧
          number digits = Nat.ofDigitChars 10 digits 0) ∨
        (((∃ c ∈ digits, c.isDigit = false) ∨ 4294967295 < Nat.ofDigitChars 10 digits 0) ∧
          number digits = 0)) ∧
    compile locatedPattern = .ok ⟨locatedPattern, locatedMatcher.plain⟩ ∧
    compile globalPattern = .ok ⟨globalPattern, globalMatcher.plain⟩ := by
  refine ⟨fun _ _ => parse_eq_iff_accounts, fun text => ?_, fun _ _ => parse_append_newline_append,
    number_cases, compile_locatedPattern, compile_globalPattern⟩
  rw [parse_eq_nil_iff, isBlankText_eq_all_lines, List.all_eq_true]

/-- An output that ends without a newline. The line is one too large, and the column has a digit of
another script. -/
def openOutput : String := "a.ts(4294967296,٣): error TS1: x\r\n  more"

/-- An output that starts with a blank line. -/
def spacedOutput : String := "\nwarning TS5023: unknown\n"

/-- What is read from the first: neither number is known. -/
def unplacedDiagnostic : Diagnostic :=
  (ofHeadline ⟨.error, "TS1".toList, "x\n  more".toList⟩).locatedAt "a.ts" 0 0

/-- The two outputs are read one by one. -/
theorem parse_blocks_sample :
    parse (openOutput ++ "\n" ++ spacedOutput) = [unplacedDiagnostic, optionDiagnostic] ∧
      ∃! blocks, Accounts blocks (saidLines (openOutput ++ "\n" ++ spacedOutput))
        [unplacedDiagnostic, optionDiagnostic] := by
  have noReturn : openOutput.toList.getLast? ≠ some '\r' := by decide +kernel
  have heads : ∀ first ∈ (saidLines spacedOutput).head?, IsHeading first := by decide +kernel
  have read : parse (openOutput ++ "\n" ++ spacedOutput) =
      [unplacedDiagnostic, optionDiagnostic] := by
    rw [parse_blocks.2.2.1 openOutput spacedOutput noReturn heads]
    decide +kernel
  exact ⟨read, (parse_blocks.1 _ _).mp read⟩

end Diagnostic

end BundleFinish
