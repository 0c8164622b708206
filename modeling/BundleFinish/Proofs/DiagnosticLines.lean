import BundleFinish.Diagnostic.Output
import Mathlib.Data.List.TakeWhile

/-! # First lines of diagnostics

A diagnostic starts with `file(line,column): severity code: message`, or without a place. The
readers of such lines find what these forms describe, and nothing else. The file name is the
shortest that is followed by a place and a headline; as a parenthesis opens in them at the front
only, a file name without a place and a headline inside is found whole, whatever the message quotes
(`located?_of_not_hasMark`). -/

namespace BundleFinish

open Text

/-- The word for a severity. -/
def Severity.word : Severity → List Char
  | .error => "error".toList
  | .warning => "warning".toList

namespace Diagnostic

/-! ## Forms -/

/-- Digits of any script, at least one. -/
def IsDigits (digits : List Char) : Prop :=
  digits ≠ [] ∧ ∀ c ∈ digits, isDecimalDigit c = true

/-- A code: `TS` and digits. -/
def IsCode (code : List Char) : Prop :=
  ∃ digits, IsDigits digits ∧ code = 'T' :: 'S' :: digits

/-- What stands before the message of a headline: `severity code: `. -/
def Headline.mark (headline : Headline) : List Char :=
  headline.severity.word ++ ' ' :: (headline.code ++ ": ".toList)

/-- Line and column are printed with digits. -/
def Position.IsPrinted (position : Position) : Prop :=
  IsDigits position.line ∧ IsDigits position.column

/-- A place as it stands behind a file name: `(line,column): `. -/
def Position.mark (position : Position) : List Char :=
  '(' :: (position.line ++ ',' :: (position.column ++ "): ".toList))

/-- A text starts with a place and a headline. -/
def IsMarked (text : List Char) : Prop :=
  ∃ (position : Position) (headline : Headline), position.IsPrinted ∧ IsCode headline.code ∧
    text = position.mark ++ (headline.mark ++ headline.message)

/-- A place and a headline stand somewhere in a text. -/
def HasMark (text : List Char) : Prop :=
  ∃ before rest, text = before ++ rest ∧ IsMarked rest

/-- A line has the form `file(line,column): severity code: message`. -/
def IsLocated (line : List Char) : Prop :=
  ∃ file rest, file ≠ [] ∧ line = file ++ rest ∧ IsMarked rest

/-- A line has the form `severity code: message`. -/
def IsGlobal (line : List Char) : Prop :=
  ∃ headline : Headline, IsCode headline.code ∧ line = headline.mark ++ headline.message

/-- A line is located when there is a mark behind its first character. -/
theorem isLocated_cons_iff {c : Char} {rest : List Char} :
    IsLocated (c :: rest) ↔ HasMark rest := by
  constructor
  · rintro ⟨_ | ⟨d, file⟩, marked, named, same, isMarked⟩
    · exact absurd rfl named
    · exact ⟨file, marked, (List.cons.inj same).2, isMarked⟩
  · rintro ⟨before, marked, rfl, isMarked⟩
    exact ⟨c :: before, marked, List.cons_ne_nil c before, rfl, isMarked⟩

/-! ## Reading pieces -/

theorem after?_eq_some_iff {start text rest : List Char} :
    after? start text = some rest ↔ text = start ++ rest := by
  unfold after?
  by_cases starts : start.isPrefixOf text = true
  · obtain ⟨behind, rfl⟩ := List.isPrefixOf_iff_prefix.mp starts
    rw [if_pos starts, List.drop_left, Option.some.injEq, List.append_cancel_left_eq]
  · rw [if_neg starts]
    refine iff_of_false nofun ?_
    rintro rfl
    exact starts (List.isPrefixOf_iff_prefix.mpr (List.prefix_append start rest))

/-- Digits are read up to a character that is none. -/
theorem digits?_append {digits : List Char} (isDigits : IsDigits digits) {c : Char}
    (stops : isDecimalDigit c = false) (rest : List Char) :
    digits? (digits ++ c :: rest) = some (digits, c :: rest) := by
  have stop : ¬isDecimalDigit c = true := by rw [stops]; exact Bool.false_ne_true
  have taken : (digits ++ c :: rest).takeWhile isDecimalDigit = digits := by
    rw [List.takeWhile_append_of_pos isDigits.2, List.takeWhile_cons_of_neg stop, List.append_nil]
  have dropped : (digits ++ c :: rest).dropWhile isDecimalDigit = c :: rest := by
    rw [List.dropWhile_append_of_pos isDigits.2, List.dropWhile_cons_of_neg stop]
  rw [digits?, taken, dropped]
  rcases digits with _ | ⟨d, others⟩
  · exact absurd rfl isDigits.1
  · rfl

/-- What is read are digits, and they stood at the front. -/
theorem eq_append_of_digits? {text digits rest : List Char}
    (read : digits? text = some (digits, rest)) : IsDigits digits ∧ text = digits ++ rest := by
  have whole : text.takeWhile isDecimalDigit ++ text.dropWhile isDecimalDigit = text :=
    List.takeWhile_append_dropWhile
  have holds : ∀ c ∈ text.takeWhile isDecimalDigit, isDecimalDigit c = true :=
    fun _ => List.mem_takeWhile_imp
  unfold digits? at read
  rcases taken : text.takeWhile isDecimalDigit with _ | ⟨d, others⟩
  · rw [taken] at read
    cases read
  · rw [taken] at read whole holds
    cases read
    exact ⟨⟨List.cons_ne_nil d others, holds⟩, whole.symm⟩

/-- The two words start with different letters, so a severity is read in one way. -/
theorem severity?_eq_some_iff {text rest : List Char} {severity : Severity} :
    severity? text = some (severity, rest) ↔ text = severity.word ++ rest := by
  unfold severity?
  rcases isError : after? "error".toList text with _ | behind
  · have noError : ∀ rest, text ≠ "error".toList ++ rest := by
      intro rest same
      rw [after?_eq_some_iff.mpr same] at isError
      cases isError
    rw [Option.map_eq_some_iff]
    constructor
    · rintro ⟨behind, read, same⟩
      cases same
      exact after?_eq_some_iff.mp read
    · intro same
      rcases severity with _ | _
      · exact absurd same (noError rest)
      · exact ⟨rest, after?_eq_some_iff.mpr same, rfl⟩
  · obtain rfl := after?_eq_some_iff.mp isError
    rcases severity with _ | _
    · have same : some (Severity.error, behind) = some (Severity.error, rest) ↔ behind = rest := by
        rw [Option.some.injEq, Prod.mk.injEq, and_iff_right rfl]
      exact same.trans (List.append_right_inj _).symm
    · refine iff_of_false nofun fun same => ?_
      have first : some 'e' = some 'w' := congrArg List.head? same
      cases first

/-! ## Reading headlines and places -/

/-- A headline is read from its form. -/
theorem headline?_mark_append {headline : Headline} (isCode : IsCode headline.code)
    (message : List Char) :
    headline? (headline.mark ++ message) = some { headline with message } := by
  obtain ⟨severity, code, old⟩ := headline
  obtain ⟨digits, isDigits, rfl⟩ := isCode
  have word : severity? (severity.word ++ (" TS".toList ++ (digits ++ ':' :: ' ' :: message))) =
      some (severity, " TS".toList ++ (digits ++ ':' :: ' ' :: message)) :=
    severity?_eq_some_iff.mpr rfl
  have opening : after? " TS".toList (" TS".toList ++ (digits ++ ':' :: ' ' :: message)) =
      some (digits ++ ':' :: ' ' :: message) := after?_eq_some_iff.mpr rfl
  have number : digits? (digits ++ ':' :: ' ' :: message) = some (digits, ':' :: ' ' :: message) :=
    digits?_append isDigits (by decide) _
  have closing : after? ": ".toList (':' :: ' ' :: message) = some message :=
    after?_eq_some_iff.mpr rfl
  have text : Headline.mark ⟨severity, 'T' :: 'S' :: digits, old⟩ ++ message =
      severity.word ++ (" TS".toList ++ (digits ++ ':' :: ' ' :: message)) := by
    simp [Headline.mark]
  rw [headline?, text]
  simp only [word, opening, number, closing, Option.bind_eq_bind, Option.bind_some,
    Option.pure_def]

/-- Only what has the form is read as a headline. -/
theorem eq_append_of_headline? {text : List Char} {headline : Headline}
    (read : headline? text = some headline) :
    IsCode headline.code ∧ text = headline.mark ++ headline.message := by
  unfold headline? at read
  simp only [Option.bind_eq_bind, Option.bind_eq_some_iff, Option.pure_def] at read
  obtain ⟨⟨severity, first⟩, word, second, opening, ⟨digits, third⟩, number, message, closing,
    same⟩ := read
  cases same
  obtain rfl := severity?_eq_some_iff.mp word
  obtain rfl := after?_eq_some_iff.mp opening
  obtain ⟨isDigits, rfl⟩ := eq_append_of_digits? number
  obtain rfl := after?_eq_some_iff.mp closing
  exact ⟨⟨digits, isDigits, rfl⟩, by simp [Headline.mark]⟩

/-- A place with a headline behind it is read from its form. -/
theorem position?_mark_append {position : Position} {headline : Headline}
    (isPrinted : position.IsPrinted) (isCode : IsCode headline.code) (message : List Char) :
    position? (position.mark ++ (headline.mark ++ message)) =
      some (position, { headline with message }) := by
  obtain ⟨line, column⟩ := position
  let behind := headline.mark ++ message
  have opening : after? ['('] ('(' :: (line ++ ',' :: (column ++ ')' :: ':' :: ' ' :: behind))) =
      some (line ++ ',' :: (column ++ ')' :: ':' :: ' ' :: behind)) := after?_eq_some_iff.mpr rfl
  have first : digits? (line ++ ',' :: (column ++ ')' :: ':' :: ' ' :: behind)) =
      some (line, ',' :: (column ++ ')' :: ':' :: ' ' :: behind)) :=
    digits?_append isPrinted.1 (by decide) _
  have comma : after? [','] (',' :: (column ++ ')' :: ':' :: ' ' :: behind)) =
      some (column ++ ')' :: ':' :: ' ' :: behind) := after?_eq_some_iff.mpr rfl
  have second : digits? (column ++ ')' :: ':' :: ' ' :: behind) =
      some (column, ')' :: ':' :: ' ' :: behind) := digits?_append isPrinted.2 (by decide) _
  have closing : after? "): ".toList (')' :: ':' :: ' ' :: behind) = some behind :=
    after?_eq_some_iff.mpr rfl
  have read : headline? behind = some { headline with message } :=
    headline?_mark_append isCode message
  have text : Position.mark ⟨line, column⟩ ++ behind =
      '(' :: (line ++ ',' :: (column ++ ')' :: ':' :: ' ' :: behind)) := by
    simp [Position.mark]
  rw [position?, text]
  simp only [opening, first, comma, second, closing, read, Option.bind_eq_bind, Option.bind_some,
    Option.pure_def]

/-- Only what has the form is read as a place with a headline behind it. -/
theorem eq_append_of_position? {text : List Char} {position : Position} {headline : Headline}
    (read : position? text = some (position, headline)) :
    position.IsPrinted ∧ IsCode headline.code ∧
      text = position.mark ++ (headline.mark ++ headline.message) := by
  unfold position? at read
  simp only [Option.bind_eq_bind, Option.bind_eq_some_iff, Option.pure_def] at read
  obtain ⟨first, opening, ⟨line, second⟩, lineRead, third, comma, ⟨column, fourth⟩, columnRead,
    fifth, closing, found, headlineRead, same⟩ := read
  cases same
  obtain rfl := after?_eq_some_iff.mp opening
  obtain ⟨lineDigits, rfl⟩ := eq_append_of_digits? lineRead
  obtain rfl := after?_eq_some_iff.mp comma
  obtain ⟨columnDigits, rfl⟩ := eq_append_of_digits? columnRead
  obtain rfl := after?_eq_some_iff.mp closing
  obtain ⟨isCode, rfl⟩ := eq_append_of_headline? headlineRead
  exact ⟨⟨lineDigits, columnDigits⟩, isCode, by simp [Position.mark]⟩

/-- There is no headline to read exactly where the form is another one. -/
theorem headline?_eq_none_iff {line : List Char} : headline? line = none ↔ ¬IsGlobal line := by
  rcases read : headline? line with _ | headline
  · refine iff_of_true rfl ?_
    rintro ⟨headline, isCode, rfl⟩
    rw [headline?_mark_append isCode] at read
    cases read
  · refine iff_of_false nofun (not_not_intro ?_)
    exact ⟨headline, eq_append_of_headline? read⟩

/-- There is no place to read exactly where the text does not start with one. -/
theorem position?_eq_none_iff {text : List Char} : position? text = none ↔ ¬IsMarked text := by
  rcases read : position? text with _ | ⟨position, headline⟩
  · refine iff_of_true rfl ?_
    rintro ⟨position, headline, isPrinted, isCode, rfl⟩
    rw [position?_mark_append isPrinted isCode] at read
    cases read
  · refine iff_of_false nofun (not_not_intro ?_)
    exact ⟨position, headline, eq_append_of_position? read⟩

instance (digits : List Char) : Decidable (IsDigits digits) :=
  decidable_of_iff (digits ≠ [] ∧ digits.all isDecimalDigit = true)
    (by rw [IsDigits, List.all_eq_true])

instance (text : List Char) : Decidable (IsMarked text) :=
  decidable_of_iff (position? text ≠ none) (by rw [ne_eq, position?_eq_none_iff, not_not])

instance (line : List Char) : Decidable (IsGlobal line) :=
  decidable_of_iff (headline? line ≠ none) (by rw [ne_eq, headline?_eq_none_iff, not_not])

/-! ## Reading located lines -/

/-- Nothing is located from some place on exactly where no mark stands behind at least one
character. -/
theorem locatedFrom?_eq_none_iff {before text : List Char} :
    locatedFrom? before text = none ↔
      ∀ front rest, text = front ++ rest → before.reverse ++ front ≠ [] → ¬IsMarked rest := by
  induction text generalizing before with
  | nil =>
    refine iff_of_true rfl fun front rest same _ => ?_
    rw [(List.append_eq_nil_iff.mp same.symm).2]
    exact position?_eq_none_iff.mp rfl
  | cons c others ih =>
    -- A mark stands at the front, or behind the first character.
    have split : (∀ front rest, c :: others = front ++ rest → before.reverse ++ front ≠ [] →
        ¬IsMarked rest) ↔
          (before ≠ [] → ¬IsMarked (c :: others)) ∧ locatedFrom? (c :: before) others = none := by
      rw [ih]
      constructor
      · intro free
        refine ⟨fun known => free [] _ rfl (by simpa using known), fun front rest same _ => ?_⟩
        exact free (c :: front) rest (by rw [same, List.cons_append]) (by simp)
      · rintro ⟨atFront, behind⟩ (_ | ⟨d, front⟩) rest same known
        · rw [← List.nil_append rest, ← same]
          exact atFront (by simpa using known)
        · obtain ⟨rfl, rest'⟩ := List.cons.inj same
          exact behind front rest rest' (by simp)
    rw [split, ← position?_eq_none_iff, locatedFrom?]
    by_cases known : before = []
    · rw [if_pos known]
      simp [known]
    · rw [if_neg known]
      rcases position? (c :: others) with _ | ⟨position, headline⟩
      · simp
      · simp [known]

/-- A line is located at the first mark behind at least one character. -/
theorem locatedFrom?_append {before file rest : List Char} {position : Position}
    {headline : Headline} (named : before.reverse ++ file ≠ [])
    (marked : position? rest = some (position, headline))
    (first : ∀ front tail, file = front ++ tail → before.reverse ++ front ≠ [] → tail ≠ [] →
      ¬IsMarked (tail ++ rest)) :
    locatedFrom? before (file ++ rest) = some (before.reverse ++ file, position, headline) := by
  induction file generalizing before with
  | nil =>
    have known : before ≠ [] := by
      rintro rfl
      exact named rfl
    rcases rest with _ | ⟨c, behind⟩
    · cases marked
    · rw [List.nil_append, locatedFrom?, if_neg known, marked, List.append_nil]
  | cons c others ih =>
    have here : (if before = [] then none else position? (c :: (others ++ rest))) = none := by
      by_cases known : before = []
      · rw [if_pos known]
      · rw [if_neg known]
        refine position?_eq_none_iff.mpr (first [] (c :: others) rfl ?_ (List.cons_ne_nil c others))
        rwa [List.append_nil, ne_eq, List.reverse_eq_nil_iff]
    have whole : (c :: before).reverse ++ others = before.reverse ++ c :: others := by
      rw [List.reverse_cons, List.append_assoc, List.singleton_append]
    rw [List.cons_append, locatedFrom?, here, ← whole]
    refine ih (by rwa [whole]) fun front tail same _ left => ?_
    exact first (c :: front) tail (by rw [same, List.cons_append]) (by simp) left

/-- Nothing is located in a line exactly where it has another form. -/
theorem located?_eq_none_iff {line : List Char} : located? line = none ↔ ¬IsLocated line := by
  rw [located?, locatedFrom?_eq_none_iff]
  constructor
  · rintro free ⟨file, rest, named, same, isMarked⟩
    exact free file rest same named isMarked
  · exact fun other file rest same named isMarked => other ⟨file, rest, named, same, isMarked⟩

instance (line : List Char) : Decidable (IsLocated line) :=
  decidable_of_iff (located? line ≠ none) (by rw [ne_eq, located?_eq_none_iff, not_not])

instance (text : List Char) : Decidable (HasMark text) :=
  decidable_of_iff (IsLocated (' ' :: text)) isLocated_cons_iff

/-! ## File names without a mark -/

/-- A character that is no digit is not among digits. -/
theorem IsDigits.not_mem {digits : List Char} (isDigits : IsDigits digits) {c : Char}
    (other : isDecimalDigit c = false) : c ∉ digits := by
  intro member
  rw [isDigits.2 c member] at other
  cases other

/-- A headline is printed with the words of severities, blanks, `TS`, colons and digits, up to its
message. -/
theorem Headline.not_mem_mark {headline : Headline} (isCode : IsCode headline.code) {c : Char}
    (noDigit : isDecimalDigit c = false)
    (other : c ∉ Severity.error.word ++ (Severity.warning.word ++ [' ', 'T', 'S', ':'])) :
    c ∉ headline.mark := by
  obtain ⟨digits, isDigits, code⟩ := isCode
  simp only [List.mem_append, List.mem_cons, not_or] at other
  obtain ⟨noError, noWarning, blank, letter, last, colon, -⟩ := other
  have word : c ∉ headline.severity.word := by
    rcases headline.severity with _ | _
    · exact noError
    · exact noWarning
  simp [mark, code, word, blank, letter, last, colon, isDigits.not_mem noDigit]

/-- A place opens one parenthesis, at its front. -/
theorem Position.exists_mark_eq_cons {position : Position} (isPrinted : position.IsPrinted) :
    ∃ rest, position.mark = '(' :: rest ∧ '(' ∉ rest :=
  have noDigit : isDecimalDigit '(' = false := by decide
  ⟨_, rfl, by simp [isPrinted.1.not_mem noDigit, isPrinted.2.not_mem noDigit]⟩

/-- What starts with a character that comes once cannot reach beyond its next occurrence. -/
theorem prefix_of_append_eq_append {c : Char} {opened tail rest behind : List Char}
    (once : c ∉ opened) (left : tail ≠ [])
    (same : tail ++ c :: rest = (c :: opened) ++ behind) : (c :: opened) <+: tail := by
  rcases List.append_eq_append_iff.mp same with ⟨_ | ⟨d, gap⟩, opens, next⟩ | ⟨gap, rfl, -⟩
  · have whole : c :: opened = tail := opens.trans (List.append_nil tail)
    exact whole ▸ List.prefix_rfl
  · -- The character would stand among those behind the front.
    obtain ⟨rfl, -⟩ := List.cons.inj next
    rcases tail with _ | ⟨e, others⟩
    · exact absurd rfl left
    · rw [(List.cons.inj opens).2] at once
      exact absurd (List.mem_append_right others List.mem_cons_self) once
  · exact List.prefix_append _ gap

/-- No mark starts in a file name without a mark, whatever stands behind its place. -/
theorem not_isMarked_append {front tail rest : List Char} {position : Position}
    (plain : ¬HasMark (front ++ tail)) (left : tail ≠ []) (isPrinted : position.IsPrinted) :
    ¬IsMarked (tail ++ (position.mark ++ rest)) := by
  rintro ⟨other, headline, otherPrinted, isCode, same⟩
  obtain ⟨inner, mark, -⟩ := Position.exists_mark_eq_cons isPrinted
  obtain ⟨opened, otherMark, once⟩ := Position.exists_mark_eq_cons otherPrinted
  have never : '(' ∉ headline.mark := Headline.not_mem_mark isCode (by decide) (by decide)
  have onceBoth : '(' ∉ opened ++ headline.mark := by
    rw [List.mem_append]
    exact not_or_intro once never
  have aligned : tail ++ '(' :: (inner ++ rest) =
      ('(' :: (opened ++ headline.mark)) ++ headline.message := by
    rw [mark, otherMark] at same
    simpa using same
  -- The mark opens where the name still goes on, so it ends before the place opens.
  obtain ⟨message, rfl⟩ := prefix_of_append_eq_append onceBoth left aligned
  refine plain ⟨front, _, rfl, other, { headline with message }, otherPrinted, isCode, ?_⟩
  rw [otherMark]
  simp [Headline.mark]

/-- **A located line.** A file name that is not empty and has no mark inside, then a place, a
headline and any message are read as they stand, also where the name has parentheses, commas and
digits or the message quotes a diagnostic. -/
theorem located?_of_not_hasMark {file : List Char} {position : Position} {headline : Headline}
    (named : file ≠ []) (plain : ¬HasMark file) (isPrinted : position.IsPrinted)
    (isCode : IsCode headline.code) (message : List Char) :
    located? (file ++ (position.mark ++ (headline.mark ++ message))) =
      some (file, position, { headline with message }) := by
  refine locatedFrom?_append named (position?_mark_append isPrinted isCode message) ?_
  rintro front tail rfl _ left
  exact not_isMarked_append plain left isPrinted

end Diagnostic

end BundleFinish
