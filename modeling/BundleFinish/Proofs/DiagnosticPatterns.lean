import BundleFinish.Proofs.Backtracking
import BundleFinish.Proofs.DiagnosticLines
import BundleFinish.Proofs.WrittenPatterns

/-! # First lines of diagnostics as patterns

A first line with a place and one without are what two patterns match (`locatedPattern`,
`globalPattern`). The readers of lines find a match exactly where these patterns have one, and read
what stands in its groups: the file name is as short as can be, and digits are as many as there are
(`captures?_locatedMatcher`, `captures?_globalMatcher`). -/

namespace BundleFinish

open Text

/-! ## What a match captures -/

namespace Pattern.Matcher

/-- What stands in the groups of the first match of a text, the last group first. -/
def captures? (matcher : Matcher) (text : List Char) : Option (List (Nat × List Char)) :=
  (matcher.firstFrom? [] text).map fun found => found.2.groups

variable {parts : List Matcher} {next : Continuation} {groups : List (Nat × List Char)}
  {before rest : List Char}

/-- A group is closed where its body has been read. -/
theorem run_group (number : Nat) (body : Matcher) :
    (group number body).run next ⟨before, rest, groups⟩ =
      body.run (fun last => next (last.close number rest)) ⟨before, rest, groups⟩ := rfl

/-- The other branch is tried where the preferred one comes to no end. -/
theorem run_either (preferred other : Matcher) (state : MatchState) :
    (either preferred other).run next state =
      (preferred.run next state).or (other.run next state) := rfl

/-- A match that has to begin at the start of a text begins nowhere else. -/
theorem firstFrom?_startText_of_ne_nil (known : before ≠ []) :
    (sequence (.look .startText :: parts)).firstFrom? before rest = none := by
  have elsewhere : ∀ {before : List Char}, before ≠ [] → ∀ rest,
      (sequence (.look .startText :: parts)).run some ⟨before, rest, []⟩ = none := by
    rintro (_ | ⟨c, others⟩) known rest
    · exact absurd rfl known
    · rfl
  induction rest generalizing before with
  | nil => rw [firstFrom?, elsewhere known, Option.map_none]
  | cons c rest ih =>
    rw [firstFrom?, elsewhere known]
    exact ih (List.cons_ne_nil c before)

/-- So it captures what a match from the start captures. -/
theorem captures?_startText (text : List Char) :
    (sequence (.look .startText :: parts)).captures? text =
      ((sequence parts).run some ⟨[], text, []⟩).map MatchState.groups := by
  have start : (sequence (.look .startText :: parts)).run some ⟨[], text, []⟩ =
      (sequence parts).run some ⟨[], text, []⟩ := rfl
  rw [captures?]
  rcases text with _ | ⟨c, rest⟩
  · rw [firstFrom?, start, Option.map_map]
    rfl
  · rw [firstFrom?, start]
    rcases (sequence parts).run some ⟨[], c :: rest, []⟩ with _ | last
    · dsimp only
      rw [firstFrom?_startText_of_ne_nil (List.cons_ne_nil c [])]
      rfl
    · rfl

end Pattern.Matcher

namespace Diagnostic

open Pattern Matcher

/-! ## The patterns and their matchers -/

/-- The pattern of a first line with a place. -/
def locatedPattern : String := "^(.+?)\\((\\d+),(\\d+)\\): (error|warning) (TS\\d+): (.*)$"

/-- The pattern of a first line without a place. -/
def globalPattern : String := "^(error|warning) (TS\\d+): (.*)$"

/-- What a line may hold. -/
def lineChars : CharSet := .complement (.single '\n')

/-- At least one digit, and as many as there are. -/
def someDigits : Matcher := .repeated 1 true .digit

/-- A severity, a code and the message up to the end of the text, in groups from a number on. -/
def headlineParts (number : Nat) : List Matcher :=
  .group number
      (.either (.sequence (exactly Severity.error.word))
        (.sequence (exactly Severity.warning.word))) ::
    (exactly [' '] ++ .group (number + 1) (.sequence (exactly ['T', 'S'] ++ [someDigits])) ::
      (exactly [':', ' '] ++
        [.group (number + 2) (.repeated 0 true lineChars), .look .endText]))

/-- A place, and a headline behind it. -/
def positionParts : List Matcher :=
  exactly ['('] ++ .group 2 someDigits ::
    (exactly [','] ++ .group 3 someDigits :: (exactly [')', ':', ' '] ++ headlineParts 4))

/-- The matcher of a first line with a place. -/
def locatedMatcher : Matcher :=
  .sequence (.look .startText :: .group 1 (.repeated 1 false lineChars) :: positionParts)

/-- The matcher of a first line without a place. -/
def globalMatcher : Matcher := .sequence (.look .startText :: headlineParts 1)

/-- At least one digit, in a pattern. -/
def writtenDigits (rest : Written) : Written :=
  .part (.shorthand 'd' .digit) (some (.plus, false)) rest

/-- A severity, a code and the message, as they are written. -/
def writtenHeadline : Written :=
  .group true
      (.letters Severity.error.word <| .bar <| .letters Severity.warning.word .finish) none <|
    .once (.letter (.plain ' ')) <|
    .group true (.letters ['T', 'S'] <| writtenDigits .finish) none <|
    .letters [':', ' '] <| .group true (.part .dot (some (.star, false)) .finish) none <|
    .once .lineEnd .finish

/-- The pattern of a first line with a place, as it is written. -/
def writtenLocated : Written :=
  .once .lineStart <| .group true (.part .dot (some (.plus, true)) .finish) none <|
    .once (.letter (.escaped '(')) <| .group true (writtenDigits .finish) none <|
    .once (.letter (.plain ',')) <| .group true (writtenDigits .finish) none <|
    .once (.letter (.escaped ')')) <| .letters [':', ' '] writtenHeadline

/-- Without its preferences and groups, the matcher is what the pattern means. -/
theorem compile_locatedPattern :
    compile locatedPattern = .ok ⟨locatedPattern, locatedMatcher.plain⟩ := by
  have text : locatedPattern = String.ofList writtenLocated.text := rfl
  have small : ¬ spaceLimit < writtenLocated.regex.space := by decide +kernel
  rw [text, compile_text (by decide) (by decide), if_neg small]
  rfl

/-- The same for first lines without a place. -/
theorem compile_globalPattern :
    compile globalPattern = .ok ⟨globalPattern, globalMatcher.plain⟩ := by
  have text : globalPattern = String.ofList (Written.once .lineStart writtenHeadline).text := rfl
  have small : ¬ spaceLimit < (Written.once .lineStart writtenHeadline).regex.space := by
    decide +kernel
  rw [text, compile_text (by decide) (by decide), if_neg small]
  rfl

/-! ## Running the parts -/

@[simp] theorem holds_lineChars (c : Char) : lineChars.holds c.toNat = (c != '\n') := by
  have code := CharSet.holds_single_toNat '\n' c
  rw [bne, Bool.beq_comm, ← code]
  rfl

/-- The digits that a pattern means are those that are read. -/
@[simp] theorem holds_digit (c : Char) : CharSet.digit.holds c.toNat = isDecimalDigit c := by
  have ascii : ∀ code < 128,
      decimalDigitRanges.holds code = decide (48 ≤ code ∧ code ≤ 57) := by decide +kernel
  rw [isDecimalDigit]
  split_ifs with small
  · rw [Bool.eq_iff_iff, Char.isDigit_iff_toNat]
    change decimalDigitRanges.holds c.toNat = true ↔ _
    rw [ascii _ small, decide_eq_true_eq]
    rfl
  · rfl

/-- What a text has to start with is read in pieces. -/
theorem after?_append (start more text : List Char) :
    after? (start ++ more) text = (after? start text).bind (after? more) := by
  refine Option.ext fun rest => ?_
  simp [after?_eq_some_iff, Option.bind_eq_some_iff]

/-- Nothing is read where another character follows. -/
theorem after?_cons_of_ne {c d : Char} (other : c ≠ d) (start rest : List Char) :
    after? (c :: start) (d :: rest) = none := by
  rw [Option.eq_none_iff_forall_ne_some]
  intro behind read
  exact other (List.cons.inj (after?_eq_some_iff.mp read)).1.symm

section

variable {next : Continuation} {groups : List (Nat × List Char)} {before rest text : List Char}

/-- Characters that have to follow. -/
theorem run_after (start : List Char) (parts : List Matcher) :
    (Matcher.sequence (exactly start ++ parts)).run next ⟨before, rest, groups⟩ =
      (after? start rest).bind fun behind =>
        (Matcher.sequence parts).run next ⟨start.reverse ++ before, behind, groups⟩ := by
  rw [run_exactly, after?]
  split_ifs
  · rfl
  · rfl

/-- Digits in front of something that does not go on with a digit. -/
theorem run_someDigits
    (refuses : ∀ before c rest groups, isDecimalDigit c = true →
      next ⟨before, c :: rest, groups⟩ = none) :
    someDigits.run next ⟨before, text, groups⟩ =
      (digits? text).bind fun (digits, behind) =>
        next ⟨digits.reverse ++ before, behind, groups⟩ := by
  rw [someDigits, run_repeated_one]
  rcases text with _ | ⟨c, rest⟩
  · rfl
  · rw [run_char_cons, holds_digit, digits?]
    by_cases digit : isDecimalDigit c = true
    · rw [if_pos digit, readMany_eager_of_refuses]
      · simp [digit]
      · intro before d others isDigit
        exact refuses before d others groups (by simpa using isDigit)
    · rw [if_neg digit]
      simp [digit]

/-- The digits of a group. -/
theorem run_group_someDigits (number : Nat)
    (refuses : ∀ before c rest groups, isDecimalDigit c = true →
      next ⟨before, c :: rest, groups⟩ = none) :
    (group number someDigits).run next ⟨before, text, groups⟩ =
      (digits? text).bind fun (digits, behind) =>
        next ⟨digits.reverse ++ before, behind, (number, digits) :: groups⟩ := by
  rw [run_group, run_someDigits]
  · refine Option.bind_congr ?_
    rintro ⟨digits, behind⟩ read
    obtain ⟨-, rfl⟩ := eq_append_of_digits? read
    exact congrArg next (MatchState.close_append _ digits behind groups number)
  · exact fun before c rest groups => refuses before c rest _

/-- The message up to the end of the line. -/
theorem run_message (number : Nat) (single : '\n' ∉ text) :
    (Matcher.sequence [.group number (.repeated 0 true lineChars), .look .endText]).run some
        ⟨before, text, groups⟩ =
      some ⟨text.reverse ++ before, [], (number, text) :: groups⟩ := by
  have all : ∀ (before read rest : List Char), '\n' ∉ rest →
      readMany lineChars true
          (fun last =>
            (Matcher.sequence [.look .endText]).run some (last.close number (read ++ rest)))
          groups before rest =
        some ⟨rest.reverse ++ before, [], (number, read ++ rest) :: groups⟩ := by
    intro before read rest
    induction rest generalizing before read with
    | nil =>
      intro _
      rw [readMany_nil, MatchState.close_append]
      simp [Look.holds, run]
    | cons c rest ih =>
      intro single
      rw [List.mem_cons, not_or] at single
      have more := ih (c :: before) (read ++ [c]) single.2
      rw [List.append_assoc, List.singleton_append] at more
      rw [readMany_eager_cons (by simpa using Ne.symm single.1), more]
      simp
  exact all before [] text single

/-- The word of a severity. -/
theorem run_severity (number : Nat) :
    (group number (.either (.sequence (exactly Severity.error.word))
        (.sequence (exactly Severity.warning.word)))).run next ⟨before, text, groups⟩ =
      (severity? text).bind fun (severity, behind) =>
        next ⟨severity.word.reverse ++ before, behind, (number, severity.word) :: groups⟩ := by
  have word : ∀ severity : Severity, (Matcher.sequence (exactly severity.word)).run
      (fun last => next (last.close number text)) ⟨before, text, groups⟩ =
        (after? severity.word text).bind fun behind =>
          next ⟨severity.word.reverse ++ before, behind, (number, severity.word) :: groups⟩ := by
    intro severity
    rw [← List.append_nil (exactly severity.word), run_after]
    refine Option.bind_congr fun behind read => ?_
    obtain rfl := after?_eq_some_iff.mp read
    rw [run_sequence_nil, MatchState.close_append]
  rw [run_group, run_either, word .error, word .warning]
  have isError : after? Severity.error.word text = after? "error".toList text := rfl
  have isWarning : after? Severity.warning.word text = after? "warning".toList text := rfl
  rw [isError, isWarning, severity?]
  rcases read : after? "error".toList text with _ | behind
  · rw [Option.bind_none, Option.none_or, Option.bind_map]
    rfl
  · -- The two words start with different letters.
    obtain rfl := after?_eq_some_iff.mp read
    have other : after? "warning".toList ("error".toList ++ behind) = none :=
      after?_cons_of_ne (by decide) _ _
    rw [other, Option.bind_none, Option.or_none]
    rfl

/-- A code. -/
theorem run_code (number : Nat)
    (refuses : ∀ before c rest groups, isDecimalDigit c = true →
      next ⟨before, c :: rest, groups⟩ = none) :
    (group number (.sequence (exactly ['T', 'S'] ++ [someDigits]))).run next
        ⟨before, text, groups⟩ =
      ((after? ['T', 'S'] text).bind digits?).bind fun (digits, behind) =>
        next ⟨digits.reverse ++ 'S' :: 'T' :: before, behind,
          (number, 'T' :: 'S' :: digits) :: groups⟩ := by
  rw [run_group, run_after, Option.bind_assoc]
  refine Option.bind_congr fun behind read => ?_
  obtain rfl := after?_eq_some_iff.mp read
  rw [run_sequence_cons, run_someDigits]
  · refine Option.bind_congr ?_
    rintro ⟨digits, behind⟩ read
    obtain ⟨-, rfl⟩ := eq_append_of_digits? read
    rw [← List.append_assoc]
    exact congrArg next (MatchState.close_append _ (['T', 'S'] ++ digits) behind groups number)
  · exact fun before c rest groups => refuses before c rest _

/-- What follows digits in a pattern is another character. -/
theorem run_after_digit {c d : Char} (isDigit : isDecimalDigit d = true)
    (noDigit : isDecimalDigit c = false) (start : List Char) (parts : List Matcher) :
    (Matcher.sequence (exactly (c :: start) ++ parts)).run next ⟨before, d :: rest, groups⟩ =
      none := by
  have other : c ≠ d := by
    rintro rfl
    rw [noDigit] at isDigit
    cases isDigit
  rw [run_after, after?_cons_of_ne other, Option.bind_none]

variable (before groups) in
/-- The groups of a headline. -/
theorem groups_headlineParts (number : Nat) (single : '\n' ∉ text) :
    ((Matcher.sequence (headlineParts number)).run some ⟨before, text, groups⟩).map
        MatchState.groups =
      (headline? text).map fun headline =>
        (number + 2, headline.message) :: (number + 1, headline.code) ::
          (number, headline.severity.word) :: groups := by
  have blank : " TS".toList = [' '] ++ ['T', 'S'] := by decide
  have colon : ": ".toList = [':', ' '] := by decide
  rw [headlineParts, run_sequence_cons, run_severity, headline?, blank, colon]
  simp only [Option.bind_eq_bind, Option.pure_def, Option.map_bind, Function.comp_def]
  refine Option.bind_congr ?_
  rintro ⟨severity, behind⟩ read
  obtain rfl := severity?_eq_some_iff.mp read
  dsimp only
  rw [run_after, after?_append]
  simp only [Option.map_bind, Function.comp_def, Option.bind_assoc]
  refine Option.bind_congr fun behind' read => ?_
  obtain rfl := after?_eq_some_iff.mp read
  rw [run_sequence_cons, run_code _ fun before c rest groups isDigit =>
    run_after_digit isDigit (by decide) _ _]
  simp only [Option.map_bind, Function.comp_def, Option.bind_assoc]
  refine Option.bind_congr fun behind read => ?_
  obtain rfl := after?_eq_some_iff.mp read
  refine Option.bind_congr ?_
  rintro ⟨digits, behind'⟩ read
  obtain ⟨-, rfl⟩ := eq_append_of_digits? read
  dsimp only
  rw [run_after]
  simp only [Option.map_bind, Function.comp_def]
  refine Option.bind_congr fun message read => ?_
  obtain rfl := after?_eq_some_iff.mp read
  rw [run_message (number + 2) (by simp at single; simp [single])]
  rfl

variable (before groups) in
/-- The groups of a place and of the headline behind it. -/
theorem groups_positionParts (single : '\n' ∉ text) :
    ((Matcher.sequence positionParts).run some ⟨before, text, groups⟩).map MatchState.groups =
      (position? text).map fun (position, headline) =>
        (6, headline.message) :: (5, headline.code) :: (4, headline.severity.word) ::
          (3, position.column) :: (2, position.line) :: groups := by
  have closing : "): ".toList = [')', ':', ' '] := by decide
  rw [positionParts, run_after, position?, closing]
  simp only [Option.bind_eq_bind, Option.pure_def, Option.map_bind, Function.comp_def]
  refine Option.bind_congr fun behind read => ?_
  obtain rfl := after?_eq_some_iff.mp read
  rw [run_sequence_cons, run_group_someDigits _ fun before c rest groups isDigit =>
    run_after_digit isDigit (by decide) _ _]
  simp only [Option.map_bind, Function.comp_def]
  refine Option.bind_congr ?_
  rintro ⟨line, behind'⟩ read
  obtain ⟨-, rfl⟩ := eq_append_of_digits? read
  dsimp only
  rw [run_after]
  simp only [Option.map_bind, Function.comp_def]
  refine Option.bind_congr fun behind read => ?_
  obtain rfl := after?_eq_some_iff.mp read
  rw [run_sequence_cons, run_group_someDigits _ fun before c rest groups isDigit =>
    run_after_digit isDigit (by decide) _ _]
  simp only [Option.map_bind, Function.comp_def]
  refine Option.bind_congr ?_
  rintro ⟨column, behind'⟩ read
  obtain ⟨-, rfl⟩ := eq_append_of_digits? read
  dsimp only
  rw [run_after]
  simp only [Option.map_bind, Function.comp_def]
  refine Option.bind_congr fun behind read => ?_
  obtain rfl := after?_eq_some_iff.mp read
  have rest : '\n' ∉ behind := by
    intro newline
    exact single (by simp [newline])
  rw [groups_headlineParts _ _ 4 rest]
  rcases headline? behind with _ | headline <;> rfl

/-- The file name goes on, character by character, up to the first place behind it. -/
theorem groups_readMany (known : before ≠ []) (single : '\n' ∉ rest) :
    (readMany lineChars false
        (fun last =>
          (Matcher.sequence positionParts).run some (last.close 1 (before.reverse ++ rest)))
        [] before rest).map MatchState.groups =
      (locatedFrom? before rest).map fun (file, position, headline) =>
        [(6, headline.message), (5, headline.code), (4, headline.severity.word),
          (3, position.column), (2, position.line), (1, file)] := by
  induction rest generalizing before with
  | nil =>
    rw [readMany_nil, MatchState.close_append, groups_positionParts _ _ single]
    rfl
  | cons c rest ih =>
    have single' : '\n' ≠ c ∧ '\n' ∉ rest := by simpa using single
    have more := ih (List.cons_ne_nil c before) single'.2
    rw [List.reverse_cons, List.append_assoc, List.singleton_append] at more
    rw [readMany_lazy_cons (by simpa using Ne.symm single'.1), Option.map_or, more,
      MatchState.close_append, groups_positionParts _ _ single, locatedFrom?, if_neg known]
    rcases position? (c :: rest) with _ | ⟨position, headline⟩
    · rfl
    · rfl

end

/-! ## What is captured -/

variable {line : List Char}

/-- **The pattern of a first line with a place** matches the lines that are read as one, and
captures the file name, the place and the headline that are read. -/
theorem captures?_locatedMatcher (single : '\n' ∉ line) :
    locatedMatcher.captures? line =
      (located? line).map fun (file, position, headline) =>
        [(6, headline.message), (5, headline.code), (4, headline.severity.word),
          (3, position.column), (2, position.line), (1, file)] := by
  rw [locatedMatcher, captures?_startText, run_sequence_cons, located?]
  rcases line with _ | ⟨c, rest⟩
  · rfl
  · have single' : '\n' ≠ c ∧ '\n' ∉ rest := by simpa using single
    have inside : lineChars.holds c.toNat = true := by simpa using Ne.symm single'.1
    have first := groups_readMany (List.cons_ne_nil c []) single'.2
    rw [run_group, run_repeated_one, run_char_cons, if_pos inside, locatedFrom?, if_pos rfl]
    exact first

/-- **The pattern of a first line without a place** matches the lines that are read as a headline,
and captures its severity, code and message. -/
theorem captures?_globalMatcher (single : '\n' ∉ line) :
    globalMatcher.captures? line =
      (headline? line).map fun headline =>
        [(3, headline.message), (2, headline.code), (1, headline.severity.word)] := by
  rw [globalMatcher, captures?_startText]
  exact groups_headlineParts [] [] 1 single

end Diagnostic

end BundleFinish
