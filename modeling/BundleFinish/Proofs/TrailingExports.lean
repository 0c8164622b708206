import BundleFinish.Proofs.Backtracking
import BundleFinish.Proofs.WrittenPatterns
import BundleFinish.Umd.TrailingExport
import Mathlib.Data.List.TakeWhile

/-! # The trailing export as a pattern

The trailing export is what a pattern finds (`exportPattern`), whose repetitions share white space
and which goes back where an expression would be empty. Reading that pattern with its preferences
comes to the same as the scan for the first place where a statement starts, the target is assigned
to, and nothing is left behind the expression: replacing the first match is what the scan does
(`returnExport_eq_replaceFirst`). -/

namespace BundleFinish

open Pattern

/-! ## Trimming -/

namespace Text

variable {c : Char} {text : List Char}

@[simp] theorem isBlankText_nil : isBlankText [] = true := rfl

@[simp] theorem isBlankText_cons :
    isBlankText (c :: text) = (isBlank c && isBlankText text) := rfl

theorem isBlankText_iff : isBlankText text = true ↔ ∀ c ∈ text, isBlank c = true :=
  List.all_eq_true

/-- Trimming at the end keeps the first character, unless the whole text is white space. -/
theorem trimEndChars_cons :
    trimEndChars (c :: text) =
      if isBlankText (c :: text) then [] else c :: trimEndChars text := by
  unfold trimEndChars
  rw [List.reverse_cons, List.dropWhile_append]
  by_cases blank : isBlankText text = true
  · have none : text.reverse.dropWhile isBlank = [] :=
      List.dropWhile_eq_nil_iff.mpr (by simpa using isBlankText_iff.mp blank)
    by_cases first : isBlank c = true <;> simp [none, first, blank]
  · have some : text.reverse.dropWhile isBlank ≠ [] := by
      intro none
      exact blank (isBlankText_iff.mpr (by simpa using List.dropWhile_eq_nil_iff.mp none))
    simp [some, blank]

/-- Nothing is left of white space. -/
theorem trimEndChars_of_isBlankText (blank : isBlankText text = true) :
    trimEndChars text = [] := by
  cases text with
  | nil => rfl
  | cons c text => rw [trimEndChars_cons, if_pos blank]

theorem trimChars_cons_of_isBlank (blank : isBlank c = true) :
    trimChars (c :: text) = trimChars text := by
  rw [trimChars, List.dropWhile_cons_of_pos blank, trimChars]

theorem trimChars_cons_of_not_isBlank (shown : isBlank c = false) :
    trimChars (c :: text) = c :: trimEndChars text := by
  rw [trimChars, List.dropWhile_cons_of_neg (by simp [shown]), trimEndChars_cons]
  simp [shown]

/-- Trimming leaves nothing of white space alone. -/
theorem trimChars_eq_nil_iff : trimChars text = [] ↔ isBlankText text = true := by
  induction text with
  | nil => simp [trimChars, trimEndChars]
  | cons c text ih =>
    by_cases blank : isBlank c = true
    · rw [trimChars_cons_of_isBlank blank, ih]
      simp [blank]
    · rw [Bool.not_eq_true] at blank
      simp [trimChars_cons_of_not_isBlank blank, blank]

end Text

namespace Umd

open Text Matcher

/-! ## The expression -/

/-- What is assigned, up to the first semicolon. -/
def expressionPart (assigned : List Char) : List Char := assigned.takeWhile (· != ';')

/-- Behind the first semicolon of what is assigned there is nothing but white space. -/
def isClosed (assigned : List Char) : Bool :=
  isBlankText ((assigned.dropWhile (· != ';')).drop 1)

/-- The text of an expression: without white space at its ends, but of white space alone the last
character. -/
def writtenExpression (part : List Char) : List Char :=
  if isBlankText part then part.getLast?.toList else trimChars part

section

variable {c : Char} {rest : List Char}

@[simp] theorem expressionPart_nil : expressionPart [] = [] := rfl

@[simp] theorem expressionPart_semicolon : expressionPart (';' :: rest) = [] := rfl

@[simp] theorem expressionPart_cons (other : c ≠ ';') :
    expressionPart (c :: rest) = c :: expressionPart rest := by
  rw [expressionPart, List.takeWhile_cons_of_pos (by simpa using other), expressionPart]

@[simp] theorem isClosed_nil : isClosed [] = true := rfl

@[simp] theorem isClosed_semicolon : isClosed (';' :: rest) = isBlankText rest := rfl

@[simp] theorem isClosed_cons (other : c ≠ ';') : isClosed (c :: rest) = isClosed rest := by
  rw [isClosed, List.dropWhile_cons_of_pos (by simpa using other), isClosed]

/-- White space is closed, and all of it is taken for an expression. -/
theorem isClosed_of_isBlankText (blank : isBlankText rest = true) :
    isBlankText (expressionPart rest) = true ∧ isClosed rest = true := by
  induction rest with
  | nil => simp
  | cons c rest ih =>
    simp only [isBlankText_cons, Bool.and_eq_true] at blank
    have other : c ≠ ';' := by
      rintro rfl
      exact absurd blank.1 (by decide)
    simp [other, blank.1, ih blank.2]

end

/-- There is an expression where something stands before the first semicolon, and nothing but white
space behind it. -/
theorem expressionOf?_eq (assigned : List Char) :
    expressionOf? assigned =
      if expressionPart assigned ≠ [] ∧ isClosed assigned = true then
        some (writtenExpression (expressionPart assigned))
      else none := by
  have part : assigned.takeWhile (· != ';') = expressionPart assigned := rfl
  have behind : isBlankText ((assigned.dropWhile (· != ';')).drop 1) = isClosed assigned := rfl
  unfold expressionOf?
  dsimp only
  rw [part, behind]
  by_cases closed : isClosed assigned = true
  · rw [if_pos closed]
    by_cases blank : isBlankText (expressionPart assigned) = true
    · rw [trimChars_eq_nil_iff.mpr blank, writtenExpression, if_pos blank]
      rcases last : (expressionPart assigned).getLast? with _ | c
      · have none : expressionPart assigned = [] := List.getLast?_eq_none_iff.mp last
        simp [none]
      · have some : expressionPart assigned ≠ [] := by
          intro none
          simp [none] at last
        simp [some, closed]
    · have shown : trimChars (expressionPart assigned) ≠ [] :=
        mt trimChars_eq_nil_iff.mp blank
      have some : expressionPart assigned ≠ [] := by
        intro none
        simp [none] at blank
      rw [writtenExpression, if_neg blank, if_pos ⟨some, closed⟩]
      split
      case h_1 empty _ => exact absurd empty shown
      case h_2 empty _ => exact absurd empty shown
      case h_3 => rfl
  · rw [if_neg closed, if_neg fun both => closed both.2]

/-! ## The pattern and its matcher -/

/-- The pattern of a trailing export: a place where a statement starts with the white space behind
it, the target, the equals sign, the expression, and the end of the statement and of the text. -/
def exportPattern : String :=
  "((?:^|[;\x7b\x7d\\n])\\s*)module\\.exports\\s*=\\s*([^;]+?)\\s*;?\\s*\\z"

/-- The characters behind which a statement may start. -/
def separators : CharSet := .unionOf [.single ';', .single '{', .single '}', .single '\n']

/-- The characters of an expression. -/
def expressionChars : CharSet := .complement (.unionOf [.single ';'])

/-- As much white space as there is. -/
def blanks : Matcher := .repeated 0 true .blank

/-- The end of the statement and of the text. -/
def exportEnd : List Matcher := [blanks, .optional (.char (.single ';')), blanks, .look .endText]

/-- The expression, which is as short as possible, and the end. -/
def exportExpression : List Matcher := .group 2 (.repeated 1 false expressionChars) :: exportEnd

/-- The statement from its target on. -/
def exportStatement : List Matcher :=
  exactly exportTarget ++ blanks :: .char (.single '=') :: blanks :: exportExpression

/-- A place where a statement starts, and the white space behind it. -/
def exportStart : Matcher :=
  .group 1 (.sequence [.either (.look .startText) (.char separators), blanks])

/-- The matcher of a trailing export. -/
def exportMatcher : Matcher := .sequence (exportStart :: exportStatement)

/-- What a trailing export is replaced by. -/
def exportReplacement : List Part := [.group 1, .text "return ".toList, .group 2, .text [';']]

/-- As much white space as there is, in the pattern. -/
def writtenBlanks (rest : Written) : Written :=
  .part (.shorthand 's' .space) (some (.star, false)) rest

/-- A place where a statement starts, as it is written. -/
def writtenStart : Written :=
  .group false
    (.once .lineStart <| .bar <|
      .once (.oneOf false [.plain ';', .plain '\x7b', .plain '\x7d', .named 'n' '\n']) .finish)
    none (writtenBlanks .finish)

/-- The end of the statement and of the text, as it is written. -/
def writtenEnd : Written :=
  writtenBlanks <| .part (.letter (.plain ';')) (some (.question, false)) <| writtenBlanks <|
    .once (.assertion 'z' .endText) .finish

/-- The pattern as it is written. -/
def writtenExport : Written :=
  .group true writtenStart none <|
    .letters "module".toList <| .once (.letter (.escaped '.')) <| .letters "exports".toList <|
    writtenBlanks <| .once (.letter (.plain '=')) <| writtenBlanks <|
    .group true (.part (.oneOf true [.plain ';']) (some (.plus, true)) .finish) none writtenEnd

/-- Without its preferences and groups, the matcher is what the pattern means. -/
theorem compile_exportPattern :
    compile exportPattern = .ok ⟨exportPattern, exportMatcher.plain⟩ := by
  have text : exportPattern = String.ofList writtenExport.text := rfl
  have small : ¬ spaceLimit < writtenExport.regex.space := by decide +kernel
  rw [text, compile_text (by decide) (by decide), if_neg small]
  rfl

/-! ## Running the matcher -/

section

variable {before rest : List Char} {groups : List (Nat × List Char)}

@[simp] theorem holds_blank (c : Char) : CharSet.blank.holds c.toNat = isBlank c := by
  rw [CharSet.holds, Char.ofNat_toNat]

@[simp] theorem holds_expressionChars (c : Char) :
    expressionChars.holds c.toNat = (c != ';') := by
  have code := CharSet.holds_single_toNat ';' c
  rw [bne, Bool.beq_comm, ← code]
  simp [expressionChars, CharSet.unionOf, CharSet.holds]

/-- White space and the end of the text. -/
theorem run_blanks_end :
    (sequence [blanks, .look .endText]).run some ⟨before, rest, groups⟩ =
      if isBlankText rest then some ⟨rest.reverse ++ before, [], groups⟩ else none := by
  rw [run_sequence_cons, blanks, run_repeated_zero, readMany_eager_of_refuses]
  · simp only [holds_blank]
    by_cases blank : isBlankText rest = true
    · have all := isBlankText_iff.mp blank
      rw [if_pos blank, List.takeWhile_eq_self_iff.mpr all, List.dropWhile_eq_nil_iff.mpr all]
      rfl
    · have shown : rest.dropWhile isBlank ≠ [] := by
        intro none
        exact blank (isBlankText_iff.mpr (List.dropWhile_eq_nil_iff.mp none))
      obtain ⟨c, others, found⟩ := List.exists_cons_of_ne_nil shown
      rw [if_neg blank, found]
      rfl
  · intro before c rest _
    rfl

/-- An optional semicolon, white space and the end of the text. -/
theorem run_semicolon_end_of_ne {c : Char} (other : c ≠ ';') :
    (sequence [.optional (.char (.single ';')), blanks, .look .endText]).run some
        ⟨before, c :: rest, groups⟩ =
      if isBlankText (c :: rest) then some ⟨(c :: rest).reverse ++ before, [], groups⟩
      else none := by
  rw [run_sequence_cons, run_optional, run_char_cons, CharSet.holds_single_toNat,
    if_neg (by simpa using Ne.symm other), Option.none_or, run_blanks_end]

/-- The end of a statement and of the text: nothing but white space and at most one semicolon. -/
theorem run_exportEnd :
    (sequence exportEnd).run some ⟨before, rest, groups⟩ =
      if isBlankText (expressionPart rest) && isClosed rest then
        some ⟨rest.reverse ++ before, [], groups⟩
      else none := by
  -- White space is given back one by one, so the induction is on the text that is left.
  rw [exportEnd, run_sequence_cons, blanks, run_repeated_zero]
  induction rest generalizing before with
  | nil => rfl
  | cons c rest ih =>
    by_cases blank : isBlank c = true
    · have other : c ≠ ';' := by
        rintro rfl
        exact absurd blank (by decide)
      rw [readMany_eager_cons (by simpa using blank), ih, ← blanks, run_semicolon_end_of_ne other,
        expressionPart_cons other, isClosed_cons other]
      by_cases all : isBlankText rest = true
      · simp [isClosed_of_isBlankText all, blank]
      · simp [blank, all]
    · rw [readMany_cons_of_not_holds true (by simpa using blank), ← blanks]
      by_cases semicolon : c = ';'
      · subst semicolon
        rw [run_sequence_cons, run_optional, run_char_cons, if_pos (by simp), run_blanks_end,
          run_blanks_end]
        by_cases all : isBlankText rest = true <;> simp [all, blank]
      · rw [run_semicolon_end_of_ne semicolon]
        simp [blank, semicolon]

variable (before rest groups) in
/-- An expression that was begun goes on up to the white space in front of its end. -/
theorem readMany_expression (read : List Char) :
    readMany expressionChars false
        (fun last => (sequence exportEnd).run some (last.close 2 (read ++ rest))) groups before
        rest =
      if isClosed rest then
        some ⟨rest.reverse ++ before, [],
          (2, read ++ trimEndChars (expressionPart rest)) :: groups⟩
      else none := by
  induction rest generalizing before read with
  | nil =>
    rw [readMany_nil, MatchState.close_append, run_exportEnd]
    simp [trimEndChars]
  | cons c rest ih =>
    by_cases semicolon : c = ';'
    · subst semicolon
      rw [readMany_cons_of_not_holds false (holds_expressionChars ';'), MatchState.close_append, run_exportEnd]
      simp [trimEndChars]
    · have more := ih (c :: before) (read ++ [c])
      rw [List.append_assoc, List.singleton_append] at more
      rw [readMany_lazy_cons (by simpa using semicolon), more, MatchState.close_append,
        run_exportEnd, expressionPart_cons semicolon, isClosed_cons semicolon]
      by_cases closed : isClosed rest = true
      · by_cases blank : isBlankText (c :: expressionPart rest) = true
        · simp only [closed, blank, trimEndChars_of_isBlankText]
          simp
        · simp [closed, blank, trimEndChars_cons]
      · simp [closed]

/-- The shortest expression that starts here, if there is one. -/
def shortest? : List Char → Option (List Char)
  | [] => none
  | c :: rest =>
    if c ≠ ';' ∧ isClosed rest = true then some (c :: trimEndChars (expressionPart rest)) else none

/-- The expression and the end, from the first character of the expression on. -/
theorem run_exportExpression :
    (sequence exportExpression).run some ⟨before, rest, groups⟩ =
      (shortest? rest).map fun expression =>
        ⟨rest.reverse ++ before, [], (2, expression) :: groups⟩ := by
  rcases rest with _ | ⟨c, rest⟩
  · rfl
  · have read := readMany_expression (c :: before) rest groups [c]
    rw [exportExpression, run_sequence_cons, shortest?]
    change (repeated 1 false expressionChars).run _ _ = _
    rw [run_repeated_one, run_char_cons, holds_expressionChars]
    by_cases semicolon : c = ';'
    · simp [semicolon]
    · rw [if_pos (by simpa using semicolon)]
      refine read.trans ?_
      by_cases closed : isClosed rest = true <;> simp [closed, semicolon]

/-- Behind the equals sign, the expression is what the scan finds: white space in front of it is
given back only where nothing else is left. -/
theorem run_assigned :
    (sequence (blanks :: exportExpression)).run some ⟨before, rest, groups⟩ =
      (expressionOf? rest).map fun expression =>
        ⟨rest.reverse ++ before, [], (2, expression) :: groups⟩ := by
  rw [run_sequence_cons, blanks, run_repeated_zero]
  induction rest generalizing before with
  | nil => rfl
  | cons c rest ih =>
    by_cases blank : isBlank c = true
    · have other : c ≠ ';' := by
        rintro rfl
        exact absurd blank (by decide)
      rw [readMany_eager_cons (by simpa using blank), ih, run_exportExpression, shortest?,
        expressionOf?_eq, expressionOf?_eq, expressionPart_cons other, isClosed_cons other]
      by_cases closed : isClosed rest = true
      · by_cases none : expressionPart rest = []
        · simp [closed, none, other, blank, writtenExpression, trimEndChars]
        · by_cases all : isBlankText (expressionPart rest) = true
          · have last := List.getLast?_eq_some_getLast none
            simp [closed, none, blank, all, writtenExpression, List.getLast?_cons, last]
          · simp [closed, none, blank, all, writtenExpression, trimChars_cons_of_isBlank]
      · simp [closed]
    · rw [readMany_cons_of_not_holds true (by simpa using blank), run_exportExpression, shortest?,
        expressionOf?_eq]
      by_cases semicolon : c = ';'
      · simp [semicolon]
      · rw [expressionPart_cons semicolon, isClosed_cons semicolon]
        by_cases closed : isClosed rest = true
        · rw [Bool.not_eq_true] at blank
          simp [closed, semicolon, blank, writtenExpression, trimChars_cons_of_not_isBlank]
        · simp [closed]

/-- The statement from its target on is what the scan finds at a place. -/
theorem run_exportStatement :
    (sequence exportStatement).run some ⟨before, rest, groups⟩ =
      (exportHere? rest).map fun expression =>
        ⟨rest.reverse ++ before, [], (2, expression) :: groups⟩ := by
  rw [exportStatement, run_exactly, exportHere?]
  by_cases target : exportTarget.isPrefixOf rest = true
  · obtain ⟨behind, rfl⟩ := List.isPrefixOf_iff_prefix.mp target
    rw [if_pos target, if_pos target, List.drop_left, run_sequence_cons, blanks, run_repeated_zero,
      readMany_eager_of_refuses]
    · simp only [holds_blank]
      have whole := (List.takeWhile_append_dropWhile (p := isBlank) (l := behind)).symm
      rcases found : behind.dropWhile isBlank with _ | ⟨c, assigned⟩
      · rfl
      · rw [run_sequence_cons, run_char_cons, CharSet.holds_single_toNat, ← blanks]
        by_cases sign : c = '='
        · subst sign
          rw [found] at whole
          have back : behind.reverse =
              assigned.reverse ++ '=' :: (behind.takeWhile isBlank).reverse :=
            (congrArg List.reverse whole).trans (by simp)
          rw [if_pos (by simp), run_assigned]
          simp [back]
        · rw [if_neg (by simpa using Ne.symm sign)]
          simp [sign]
    · intro before c others blank
      rw [run_sequence_cons, run_char_cons, CharSet.holds_single_toNat, if_neg]
      intro sign
      obtain rfl : '=' = c := by simpa using sign
      exact absurd blank (by decide)
  · rw [if_neg target, if_neg target]
    rfl

/-- The target begins with a letter that is no white space and does not come again in it. -/
theorem exportTarget_eq : exportTarget = 'm' :: "odule.exports".toList := by decide

variable (rest) in
/-- No export starts with another character than its target. -/
theorem exportHere?_cons_of_ne {c : Char} (other : c ≠ 'm') : exportHere? (c :: rest) = none := by
  rw [exportHere?, if_neg]
  intro target
  rw [exportTarget_eq, List.isPrefixOf_iff_prefix, List.cons_prefix_cons] at target
  exact other target.1.symm

/-- A separator, in the order in which the pattern names them. -/
def isSeparator (c : Char) : Bool := c == ';' || c == '{' || c == '}' || c == '\n'

@[simp] theorem holds_separators (c : Char) : separators.holds c.toNat = isSeparator c := by
  have codes : ∀ d : Char, (CharSet.single d).holds c.toNat = (c == d) := fun d => by
    rw [CharSet.holds_single_toNat, Bool.beq_comm]
  change ((((false || _) || _) || _) || _) = _
  rw [codes, codes, codes, codes, Bool.false_or, isSeparator]

/-- A match that begins here: the separator and the white space in front of the statement, and its
expression. The start of the text is tried before a separator. -/
def exportFrom? (before rest : List Char) : Option (List Char × List Char) :=
  let atStart :=
    if before = [] then
      (exportHere? (rest.dropWhile isBlank)).map fun expression =>
        (rest.takeWhile isBlank, expression)
    else none
  let atSeparator :=
    match rest with
    | [] => none
    | c :: others =>
      if isSeparator c then
        (exportHere? (others.dropWhile isBlank)).map fun expression =>
          (c :: others.takeWhile isBlank, expression)
      else none
  atStart.or atSeparator

variable (before rest groups) in
/-- White space in front of the statement, where a group was opened in front of some characters. -/
theorem run_blanks_exportStatement (read : List Char) :
    (sequence [blanks]).run
        (fun last => (sequence exportStatement).run some (last.close 1 (read ++ rest)))
        ⟨before, rest, groups⟩ =
      (exportHere? (rest.dropWhile isBlank)).map fun expression =>
        ⟨rest.reverse ++ before, [],
          (2, expression) :: (1, read ++ rest.takeWhile isBlank) :: groups⟩ := by
  rw [run_sequence_cons, blanks, run_repeated_zero, readMany_eager_of_refuses]
  · simp only [holds_blank]
    have whole := (List.takeWhile_append_dropWhile (p := isBlank) (l := rest)).symm
    have back : rest.reverse =
        (rest.dropWhile isBlank).reverse ++ (rest.takeWhile isBlank).reverse :=
      (congrArg List.reverse whole).trans (by simp)
    have closed := MatchState.close_append ((rest.takeWhile isBlank).reverse ++ before)
      (read ++ rest.takeWhile isBlank) (rest.dropWhile isBlank) groups 1
    rw [List.append_assoc, ← whole] at closed
    rw [run_sequence_nil, closed, run_exportStatement]
    simp [back]
  · intro before c others blank
    have other : c ≠ 'm' := by
      rintro rfl
      exact absurd blank (by decide)
    rw [run_sequence_nil, MatchState.close, run_exportStatement, exportHere?_cons_of_ne others other]
    rfl

/-- The matcher from one place on. -/
theorem run_exportMatcher :
    exportMatcher.run some ⟨before, rest, []⟩ =
      (exportFrom? before rest).map fun (lead, expression) =>
        ⟨rest.reverse ++ before, [], [(2, expression), (1, lead)]⟩ := by
  let next : Continuation := (sequence [blanks]).run fun last =>
    (sequence exportStatement).run some (last.close 1 rest)
  have start : (look .startText).run next ⟨before, rest, []⟩ =
      if before = [] then next ⟨before, rest, []⟩ else none := by
    cases before <;> rfl
  have atStart : next ⟨before, rest, []⟩ = _ := run_blanks_exportStatement before rest [] []
  have step : exportMatcher.run some ⟨before, rest, []⟩ =
      ((look .startText).run next ⟨before, rest, []⟩).or
        ((char separators).run next ⟨before, rest, []⟩) := rfl
  rw [step, start, exportFrom?.eq_def]
  dsimp only
  rw [Option.map_or]
  congr 1
  · split_ifs with first
    · rw [atStart]
      simp [Function.comp_def]
    · rfl
  · rcases rest with _ | ⟨c, others⟩
    · rfl
    · rw [run_char_cons, holds_separators]
      have behind := run_blanks_exportStatement (c :: before) others [] [c]
      by_cases separator : isSeparator c = true
      · rw [if_pos separator]
        refine behind.trans ?_
        simp [separator, Function.comp_def]
      · simp [separator]

/-! ## The first match is the first export -/

/-- White space behind a place where a statement may start changes nothing about that. -/
theorem startsStatement_reverse_append (starts : startsStatement before = true) {gap : List Char}
    (blank : ∀ c ∈ gap, isBlank c = true) : startsStatement (gap.reverse ++ before) = true := by
  induction gap generalizing before with
  | nil => exact starts
  | cons c gap ih =>
    rw [List.reverse_cons, List.append_assoc]
    refine ih ?_ fun d member => blank d (List.mem_cons_of_mem c member)
    simp [startsStatement, blank c List.mem_cons_self, starts]

/-- A statement may start behind a separator. -/
theorem startsStatement_of_isSeparator {c : Char} (separator : isSeparator c = true) :
    startsStatement (c :: before) = true := by
  simp only [isSeparator, Bool.or_eq_true, beq_iff_eq] at separator
  rcases separator with ((rfl | rfl) | rfl) | rfl <;> rfl

/-- A character of white space, or one that a pattern starts with, is no target. -/
theorem ne_of_isBlank_or_isSeparator {c : Char} (front : isBlank c = true ∨ isSeparator c = true) :
    c ≠ 'm' := by
  rintro rfl
  exact absurd front (by decide)

/-- A match is an export behind its start, and no export starts in between. -/
theorem exists_of_exportFrom?_eq_some {lead expression : List Char}
    (found : exportFrom? before rest = some (lead, expression)) :
    ∃ behind, rest = lead ++ behind ∧ (∀ c ∈ lead, c ≠ 'm') ∧
      startsStatement (lead.reverse ++ before) = true ∧ exportHere? behind = some expression := by
  rw [exportFrom?.eq_def] at found
  rcases Option.or_eq_some_iff.mp found with atStart | ⟨-, atSeparator⟩
  · split_ifs at atStart with first
    obtain ⟨expression, here, same⟩ := Option.map_eq_some_iff.mp atStart
    cases same
    subst first
    have blank : ∀ c ∈ rest.takeWhile isBlank, isBlank c = true :=
      fun _ => List.mem_takeWhile_imp
    exact ⟨_, List.takeWhile_append_dropWhile.symm,
      fun c member => ne_of_isBlank_or_isSeparator (.inl (blank c member)),
      startsStatement_reverse_append rfl blank, here⟩
  · rcases rest with _ | ⟨c, others⟩
    · cases atSeparator
    · dsimp only at atSeparator
      split_ifs at atSeparator with separator
      obtain ⟨expression, here, same⟩ := Option.map_eq_some_iff.mp atSeparator
      cases same
      have blank : ∀ d ∈ others.takeWhile isBlank, isBlank d = true :=
        fun _ => List.mem_takeWhile_imp
      refine ⟨_, congrArg (c :: ·) List.takeWhile_append_dropWhile.symm, ?_, ?_, here⟩
      · intro d member
        rcases List.mem_cons.mp member with rfl | member
        · exact ne_of_isBlank_or_isSeparator (.inr separator)
        · exact ne_of_isBlank_or_isSeparator (.inl (blank d member))
      · rw [List.reverse_cons, List.append_assoc]
        exact startsStatement_reverse_append (startsStatement_of_isSeparator separator) blank

/-- Where no match begins, no export starts behind the white space of a start or of a separator. -/
theorem exportHere?_eq_none_of_exportFrom? (none : exportFrom? before rest = none) :
    (before = [] → exportHere? (rest.dropWhile isBlank) = .none) ∧
      ∀ c others, rest = c :: others → isSeparator c = true →
        exportHere? (others.dropWhile isBlank) = .none := by
  rw [exportFrom?.eq_def, Option.or_eq_none_iff] at none
  obtain ⟨atStart, atSeparator⟩ := none
  constructor
  · rintro rfl
    simpa using atStart
  · rintro c others rfl separator
    simpa [separator] using atSeparator

/-- The scan passes over characters that are no target. -/
theorem trailingExportFrom?_append {lead : List Char} (plain : ∀ c ∈ lead, c ≠ 'm') :
    trailingExportFrom? before (lead ++ rest) =
      trailingExportFrom? (lead.reverse ++ before) rest := by
  induction lead generalizing before with
  | nil => rfl
  | cons c lead ih =>
    have none := exportHere?_cons_of_ne (lead ++ rest) (plain c List.mem_cons_self)
    rw [List.cons_append, trailingExportFrom?, none, ite_self, List.reverse_cons,
      List.append_assoc]
    exact ih fun d member => plain d (List.mem_cons_of_mem c member)

/-- The scan stops at an export. -/
theorem trailingExportFrom?_of_exportHere? {expression : List Char}
    (starts : startsStatement before = true) (here : exportHere? rest = some expression) :
    trailingExportFrom? before rest = some (before.reverse, expression) := by
  rcases rest with _ | ⟨c, rest⟩
  · cases here
  · rw [trailingExportFrom?, if_pos starts, here]

/-- The scan goes on where there is no export. -/
theorem trailingExportFrom?_cons_of_none {c : Char}
    (none : startsStatement before = true → exportHere? (c :: rest) = .none) :
    trailingExportFrom? before (c :: rest) = trailingExportFrom? (c :: before) rest := by
  rw [trailingExportFrom?]
  split_ifs with starts
  · rw [none starts]
  · rfl

/-- The text that takes the place of a match. -/
def replaced (found : List Char × MatchState) : List Char :=
  found.1.reverse ++ exportReplacement.flatMap (Part.chars found.2) ++ found.2.rest

/-- The replacement of a match: its start, and a `return` of its expression. -/
theorem flatMap_exportReplacement (lead expression : List Char) :
    exportReplacement.flatMap (Part.chars ⟨before, rest, [(2, expression), (1, lead)]⟩) =
      lead ++ ("return ".toList ++ (expression ++ [';'])) := rfl

/-- The text that takes the place of an export. -/
def returned (found : List Char × List Char) : List Char :=
  found.1 ++ "return ".toList ++ found.2 ++ [';']

/-- The first match is replaced as the first export is. Where the search has passed a start or a
separator, no export starts behind the white space that follows it. -/
theorem map_replaced_firstFrom?
    (passed : before ≠ [] → startsStatement before = true →
      exportHere? (rest.dropWhile isBlank) = none) :
    (exportMatcher.firstFrom? before rest).map replaced =
      (trailingExportFrom? before rest).map returned := by
  induction rest generalizing before with
  | nil =>
    have none : exportFrom? before [] = none := by
      have nothing : exportHere? [] = none := by decide
      rw [exportFrom?.eq_def]
      simp [nothing]
    rw [firstFrom?, run_exportMatcher, none]
    rfl
  | cons c rest ih =>
    rcases begins : exportFrom? before (c :: rest) with _ | ⟨lead, expression⟩
    · obtain ⟨atStart, atSeparator⟩ := exportHere?_eq_none_of_exportFrom? begins
      have free : startsStatement before = true →
          exportHere? ((c :: rest).dropWhile isBlank) = none := by
        intro starts
        by_cases first : before = []
        · exact atStart first
        · exact passed first starts
      have here : startsStatement before = true → exportHere? (c :: rest) = none := by
        intro starts
        by_cases blank : isBlank c = true
        · exact exportHere?_cons_of_ne rest (ne_of_isBlank_or_isSeparator (.inl blank))
        · have same := free starts
          rwa [List.dropWhile_cons_of_neg blank] at same
      rw [firstFrom?, run_exportMatcher, begins, trailingExportFrom?_cons_of_none here]
      refine ih fun _ starts => ?_
      by_cases separator : isSeparator c = true
      · exact atSeparator c rest rfl separator
      · -- Behind another character a statement starts only where it did in front of white space.
        have both : isBlank c = true ∧ startsStatement before = true := by
          rw [startsStatement, ← isSeparator] at starts
          simpa [separator] using starts
        have same := free both.2
        rwa [List.dropWhile_cons_of_pos both.1] at same
    · obtain ⟨behind, whole, plain, starts, here⟩ := exists_of_exportFrom?_eq_some begins
      rw [firstFrom?, run_exportMatcher, begins, whole, trailingExportFrom?_append plain,
        trailingExportFrom?_of_exportHere? starts here]
      simp [replaced, returned, flatMap_exportReplacement]

/-- Replacing the trailing export is replacing the first match of its pattern. -/
theorem returnExport_eq_replaceFirst (text : List Char) :
    returnExport text = exportMatcher.replaceFirst exportReplacement text := by
  have same : (exportMatcher.firstFrom? [] text).map replaced =
      (trailingExportFrom? [] text).map returned :=
    map_replaced_firstFrom? fun first => absurd rfl first
  rw [returnExport, trailingExport?, replaceFirst]
  rcases found : exportMatcher.firstFrom? [] text with _ | ⟨before, last⟩ <;>
    rcases export? : trailingExportFrom? [] text with _ | ⟨lead, expression⟩
  · rfl
  · rw [found, export?] at same
    cases same
  · rw [found, export?] at same
    cases same
  · rw [found, export?] at same
    exact (Option.some.inj same).symm

end

end Umd

end BundleFinish
