import BundleFinish.Proofs.JsonReading

/-! # Reading past values

A value that nobody asked for is read past, whatever it is (`JsonText.Read.yields_skip`). No stack
of readers does this but one loop with the closing characters that are still to come; every round
takes up a character, or goes from one part of a list or an object to the next one, so twice as many
rounds as there are characters are enough. -/

namespace BundleFinish.JsonText

namespace Read

/-! ## Strings -/

/-- Up to the end of a string the rest of it is read past, in a number of rounds. -/
def PassesString (rounds : Nat) (text rest : List Char) : Prop :=
  ∀ bound, rounds ≤ bound → ∀ seen, ∃ shown,
    Yields (characters skippedEscape bound seen) text shown rest

namespace PassesString

variable {rounds : Nat} {text rest : List Char}

/-- A round is one more than what follows it. -/
theorem round (onwards : ∀ bound, rounds ≤ bound → ∀ seen, ∃ shown,
    Yields (characters skippedEscape (bound + 1) seen) text shown rest) :
    PassesString (rounds + 1) text rest := by
  intro bound enough
  obtain ⟨fewer, rfl⟩ : ∃ fewer, bound = fewer + 1 := ⟨bound - 1, by omega⟩
  exact onwards fewer (Nat.le_of_succ_le_succ enough)

/-- More rounds are no harm. -/
theorem mono {more : Nat} (passes : PassesString rounds text rest) (le : rounds ≤ more) :
    PassesString more text rest :=
  fun bound enough => passes bound (le.trans enough)

/-- The quote ends the string. -/
theorem quote (rest : List Char) : PassesString 1 ('"' :: rest) rest :=
  .round fun _ _ seen => ⟨seen.reverse, .bind (.peek _) (.bind (.drop '"' _) (.pure _ rest))⟩

/-- An escape is read past in one round. -/
theorem escape {spelled : List Char} {letter : Char}
    (escaped : Yields skippedEscape (spelled ++ text) letter text)
    (behind : PassesString rounds text rest) :
    PassesString (rounds + 1) ('\\' :: (spelled ++ text)) rest := by
  refine .round fun bound enough seen => ?_
  obtain ⟨shown, onwards⟩ := behind bound enough (letter :: seen)
  exact ⟨shown, .bind (.peek _) (.bind (.drop '\\' _) (.bind escaped onwards))⟩

/-- A character is read past, however it is spelled, in no more rounds than it has characters. -/
theorem char {c : Char} {front : List Char} (spells : SpellsChar c front)
    (behind : PassesString rounds text rest) :
    PassesString (rounds + front.length) (front ++ text) rest := by
  have unit : ∀ {digits : List Char} {code : Nat} (back : List Char),
      fourDigits? digits = some code → Yields skippedEscape ('u' :: (digits ++ back)) 'u' back :=
    fun back code => .bind (.peek _) (.bind (.drop 'u' _) (.bind (yields_hexEscape code back)
      (.pure 'u' back)))
  cases spells with
  | plain shown notQuote notBackslash =>
    refine .round fun bound enough seen => ?_
    obtain ⟨read, onwards⟩ := behind bound enough (c :: seen)
    refine ⟨read, .bind (.peek _) ?_⟩
    simp only [List.cons_append, List.nil_append, List.head?_cons]
    rw [if_neg (by omega)]
    exact .bind (.drop c _) onwards
  | @short letter known =>
    have escaped : Yields skippedEscape ([letter] ++ text) letter text := by
      simp only [shortEscapes, List.mem_cons, Prod.mk.injEq, List.not_mem_nil, or_false] at known
      rcases known with ⟨rfl, -⟩ | ⟨rfl, -⟩ | ⟨rfl, -⟩ | ⟨rfl, -⟩ | ⟨rfl, -⟩ | ⟨rfl, -⟩ | ⟨rfl, -⟩ |
        ⟨rfl, -⟩
      all_goals exact .bind (.peek _) (.bind (.drop _ _) (.pure _ _))
    exact (behind.escape escaped).mono (by simp)
  | @unit digits code =>
    have escaped : Yields skippedEscape (('u' :: digits) ++ text) 'u' text := unit text code
    exact (behind.escape escaped).mono (by simp)
  | @pair high low first second isHigh isLow highCode lowCode code =>
    have lower : Yields skippedEscape (('u' :: low) ++ text) 'u' text := unit text lowCode
    have higher : Yields skippedEscape (('u' :: high) ++ ('\\' :: ('u' :: low ++ text))) 'u'
        ('\\' :: ('u' :: low ++ text)) := unit _ highCode
    have both := ((behind.escape lower).escape higher).mono
      (show _ ≤ rounds + ('\\' :: 'u' :: (high ++ '\\' :: 'u' :: low)).length by
        simp only [List.length_cons, List.length_append]
        omega)
    simpa using both

/-- The characters of a string are read past. -/
theorem chars {text inner : List Char} (spells : SpellsChars text inner) (rest : List Char) :
    PassesString (inner.length + 1) (inner ++ '"' :: rest) rest := by
  induction spells with
  | nil => exact quote rest
  | @cons c text front back first others ih =>
    rw [List.append_assoc, List.length_append]
    exact (char first ih).mono (by omega)

end PassesString

/-- A string is read past. -/
theorem yields_skipString {text : String} {spelled : List Char}
    (spells : SpellsString text spelled) (rest : List Char) :
    Yields skipString (spelled ++ rest) () rest := by
  obtain ⟨inner, spells, rfl⟩ := spells
  have enough : inner.length + 1 ≤ (inner ++ '"' :: rest).length + 1 := by
    rw [List.length_append]
    omega
  obtain ⟨shown, passed⟩ := PassesString.chars spells rest _ enough []
  rw [List.cons_append, List.append_assoc, List.singleton_append]
  exact .bind (.drop '"' _) (.bind (.remaining _) (.bind passed (.pure () rest)))

/-! ## Numbers -/

/-- Digits, one at least. -/
def AreDigits (digits : List Char) : Prop := digits ≠ [] ∧ ∀ c ∈ digits, c.isDigit = true

/-- What may stand behind the digits of a whole number: a point and digits, if anything. -/
def IsFraction (spelled : List Char) : Prop :=
  spelled = [] ∨ ∃ digits, AreDigits digits ∧ spelled = '.' :: digits

/-- What may stand at the end of a number: a power of ten, if anything. -/
def IsExponent (spelled : List Char) : Prop :=
  spelled = [] ∨ ∃ mark sign digits, (mark = 'e' ∨ mark = 'E') ∧
    (sign = [] ∨ sign = ['+'] ∨ sign = ['-']) ∧ AreDigits digits ∧
    spelled = mark :: (sign ++ digits)

/-- A number behind its sign, with no more than one zero in front. -/
def IsMagnitude (spelled : List Char) : Prop :=
  ∃ whole fraction exponent, AreDigits whole ∧ (whole.head? = some '0' → whole = ['0']) ∧
    IsFraction fraction ∧ IsExponent exponent ∧ spelled = whole ++ (fraction ++ exponent)

/-- A number begins with a digit behind its sign. -/
theorem IsMagnitude.begins {spelled : List Char} (isMagnitude : IsMagnitude spelled) :
    ∃ c others, spelled = c :: others ∧ c.isDigit = true := by
  obtain ⟨whole, fraction, exponent, ⟨nonempty, areDigits⟩, -, -, -, rfl⟩ := isMagnitude
  obtain ⟨c, others, rfl⟩ := List.exists_cons_of_ne_nil nonempty
  exact ⟨c, _, rfl, areDigits c List.mem_cons_self⟩

/-- Read past what may stand at the end of a number. -/
def skipExponent : Read Unit := do
  if exponentNext (← peek) then do
    drop
    let sign ← peek
    if sign = some '+' ∨ sign = some '-' then drop
    match ← peek with
    | some c => if c.isDigit then let _ ← digits else failAhead .badNumber
    | none => failAhead .badNumber

/-- Read past what may stand behind the digits of a whole number. -/
def skipFraction : Read Unit := do
  if (← peek) = some '.' then do
    drop
    if (← digits) = [] then failAhead .badNumber
  skipExponent

/-- A power of ten is read past. -/
theorem yields_skipExponent {spelled rest : List Char} (isExponent : IsExponent spelled)
    (follows : Follows rest) : Yields skipExponent (spelled ++ rest) () rest := by
  obtain ⟨stops, -, noExponent⟩ := not_goesOn_of_follows follows
  rcases isExponent with rfl | ⟨mark, sign, shown, isMark, isSign, ⟨nonempty, areDigits⟩, rfl⟩
  · refine .bind (.peek _) ?_
    rw [List.nil_append, noExponent, if_neg Bool.false_ne_true]
    exact .pure () rest
  · have marked : exponentNext (some mark) = true := by
      rcases isMark with rfl | rfl <;> rfl
    have read : Yields digits (shown ++ rest) shown rest := yields_digits areDigits stops
    obtain ⟨c, others, rfl⟩ := List.exists_cons_of_ne_nil nonempty
    have isDigit := areDigits c List.mem_cons_self
    have onwards : Yields (do
        match ← peek with
        | some c => if c.isDigit then let _ ← digits else failAhead .badNumber
        | none => failAhead .badNumber : Read Unit) (c :: others ++ rest) () rest := by
      refine .bind (.peek _) ?_
      simp only [List.cons_append, List.head?_cons, isDigit, if_true]
      exact .bind read (.pure () rest)
    refine .bind (.peek _) ?_
    rw [List.cons_append, List.head?_cons, marked, if_pos rfl]
    refine .bind (.drop mark _) (.bind (.peek _) ?_)
    rcases isSign with rfl | rfl | rfl
    · have unsigned : ¬((c :: others ++ rest).head? = some '+' ∨
          (c :: others ++ rest).head? = some '-') := by
        rintro (⟨⟨⟩⟩ | ⟨⟨⟩⟩) <;> cases isDigit
      rw [List.nil_append, if_neg unsigned]
      exact onwards
    · exact .bind (.drop '+' _) onwards
    · exact .bind (.drop '-' _) onwards

/-- A fraction is read past, and a power of ten behind it. -/
theorem yields_skipFraction {fraction exponent rest : List Char} (isFraction : IsFraction fraction)
    (isExponent : IsExponent exponent) (follows : Follows rest) :
    Yields skipFraction (fraction ++ (exponent ++ rest)) () rest := by
  have behind := yields_skipExponent isExponent follows
  obtain ⟨stops, noPoint⟩ : (∀ c ∈ (exponent ++ rest).head?, c.isDigit = false) ∧
      (exponent ++ rest).head? ≠ some '.' := by
    obtain ⟨stops, noPoint, -⟩ := not_goesOn_of_follows follows
    rcases isExponent with rfl | ⟨mark, sign, shown, rfl | rfl, -, -, rfl⟩
    · exact ⟨stops, noPoint⟩
    · exact ⟨by rintro c ⟨⟩; rfl, nofun⟩
    · exact ⟨by rintro c ⟨⟩; rfl, nofun⟩
  rcases isFraction with rfl | ⟨shown, ⟨nonempty, areDigits⟩, rfl⟩
  · refine .bind (.peek _) ?_
    rw [List.nil_append, if_neg noPoint]
    exact behind
  · refine .bind (.peek _) (.bind (.drop '.' _) (.bind (yields_digits areDigits stops) ?_))
    rw [if_neg nonempty]
    exact behind

/-- A number is read past behind its sign. -/
theorem yields_skipNumber {spelled : List Char} (isMagnitude : IsMagnitude spelled)
    {rest : List Char} (follows : Follows rest) : Yields skipNumber (spelled ++ rest) () rest := by
  obtain ⟨whole, fraction, exponent, ⟨nonempty, areDigits⟩, zero, isFraction, isExponent, rfl⟩ :=
    isMagnitude
  have behind := yields_skipFraction isFraction isExponent follows
  have stops : ∀ c ∈ (fraction ++ (exponent ++ rest)).head?, c.isDigit = false := by
    obtain ⟨stops, -, -⟩ := not_goesOn_of_follows follows
    rcases isFraction with rfl | ⟨digits, -, rfl⟩
    · rcases isExponent with rfl | ⟨mark, sign, shown, rfl | rfl, -, -, rfl⟩
      · exact stops
      · rintro c ⟨⟩; rfl
      · rintro c ⟨⟩; rfl
    · rintro c ⟨⟩; rfl
  have read := yields_digits areDigits stops
  obtain ⟨c, others, rfl⟩ := List.exists_cons_of_ne_nil nonempty
  have isDigit := areDigits c List.mem_cons_self
  rw [List.append_assoc, List.append_assoc]
  refine .bind (.peek _) ?_
  simp only [List.cons_append, List.head?_cons, isDigit, Bool.not_true, Bool.false_eq_true, if_false]
  by_cases isZero : c = '0'
  · obtain rfl : others = [] := by simpa [isZero] using zero
    rw [if_pos isZero]
    refine .bind (.drop c _) (.bind (.peek _) ?_)
    have noDigit : (fraction ++ (exponent ++ rest)).head?.any Char.isDigit = false := by
      cases next : (fraction ++ (exponent ++ rest)).head? with
      | none => rfl
      | some d => exact stops d next
    rw [List.nil_append, noDigit, if_neg Bool.false_ne_true]
    exact behind
  · rw [if_neg isZero]
    exact .bind read behind

end Read

/-! ## Texts of any value -/

/-- The spelling of an entry of an object, of which the value is given as it is spelled. -/
def SpellsEntry (entry : String × List Char) (part : List Char) : Prop :=
  ∃ name front back, SpellsString entry.1 name ∧ IsGap front ∧ IsGap back ∧
    part = name ++ (front ++ ':' :: (back ++ entry.2))

/-- The spellings of an object, of which the values are given as they are spelled. -/
def SpellsObject (entries : List (String × List Char)) (spelled : List Char) : Prop :=
  ∃ parts inner, List.Forall₂ SpellsEntry entries parts ∧ Listed parts inner ∧
    spelled = '\x7b' :: (inner ++ ['\x7d'])

/-- The spellings of a list, of which the items are given as they are spelled. -/
def SpellsList (items : List (List Char)) (spelled : List Char) : Prop :=
  ∃ inner, Listed items inner ∧ spelled = '[' :: (inner ++ [']'])

/-- The texts of JSON values: words, numbers, strings, lists and objects, which may have a key more
than once. -/
inductive IsJson : List Char → Prop
  | word {spelled : List Char}
      (known : spelled ∈ ["null".toList, "true".toList, "false".toList]) : IsJson spelled
  | number {spelled : List Char} (isMagnitude : Read.IsMagnitude spelled) : IsJson spelled
  | negative {spelled : List Char} (isMagnitude : Read.IsMagnitude spelled) :
      IsJson ('-' :: spelled)
  | string {text : String} {spelled : List Char} (spells : SpellsString text spelled) :
      IsJson spelled
  | list {items : List (List Char)} {spelled : List Char} (spells : SpellsList items spelled)
      (each : ∀ item ∈ items, IsJson item) : IsJson spelled
  | object {entries : List (String × List Char)} {spelled : List Char}
      (spells : SpellsObject entries spelled) (each : ∀ entry ∈ entries, IsJson entry.2) :
      IsJson spelled

/-- A value begins neither with white space nor with the end of a list. -/
theorem IsJson.begins {spelled : List Char} (isJson : IsJson spelled) :
    ∃ c others, spelled = c :: others ∧ Read.isSpace c = false ∧ c ≠ ']' := by
  cases isJson with
  | word known =>
    simp only [List.mem_cons, List.not_mem_nil, or_false] at known
    rcases known with rfl | rfl | rfl <;> exact ⟨_, _, rfl, rfl, by decide⟩
  | number isMagnitude =>
    obtain ⟨c, others, rfl, isDigit⟩ := isMagnitude.begins
    have begins : Read.Begins (.unsigned 0) c := isDigit
    exact ⟨c, _, rfl, begins.solid⟩
  | negative => exact ⟨_, _, rfl, rfl, by decide⟩
  | string spells =>
    obtain ⟨inner, -, rfl⟩ := spells
    exact ⟨_, _, rfl, rfl, by decide⟩
  | list spells =>
    obtain ⟨inner, -, rfl⟩ := spells
    exact ⟨_, _, rfl, rfl, by decide⟩
  | object spells =>
    obtain ⟨parts, inner, -, -, rfl⟩ := spells
    exact ⟨_, _, rfl, rfl, by decide⟩

namespace Read

/-! ## The loop -/

/-- From some state of the loop a text is read past up to the rest, in a number of rounds. -/
def Passes (rounds : Nat) (state : Skipping) (opened text rest : List Char) : Prop :=
  ∀ bound, rounds ≤ bound → Yields (skipFrom bound state opened) text () rest

namespace Passes

variable {state : Skipping} {opened text rest : List Char} {rounds : Nat}

/-- A round is one more than what follows it. -/
theorem round (onwards : ∀ bound, rounds ≤ bound →
    Yields (skipFrom (bound + 1) state opened) text () rest) :
    Passes (rounds + 1) state opened text rest := by
  intro bound enough
  obtain ⟨fewer, rfl⟩ : ∃ fewer, bound = fewer + 1 := ⟨bound - 1, by omega⟩
  exact onwards fewer (Nat.le_of_succ_le_succ enough)

/-- More rounds are no harm. -/
theorem mono {more : Nat} (passes : Passes rounds state opened text rest) (le : rounds ≤ more) :
    Passes more state opened text rest :=
  fun bound enough => passes bound (le.trans enough)

end Passes

/-- A value is read past in no more than twice as many rounds as it has characters. -/
def IsPassed (spelled : List Char) : Prop :=
  ∀ ⦃gap text rest opened : List Char⦄ ⦃rounds : Nat⦄, IsGap gap → Follows text →
    Passes rounds .behindValue opened text rest →
    Passes (rounds + 2 * spelled.length) .atValue opened (gap ++ (spelled ++ text)) rest

/-- A value that is taken up in a single round is read past. -/
theorem isPassed_of_round {c : Char} {others : List Char}
    (round : ∀ {gap text rest opened : List Char} {bound : Nat}, IsGap gap → Follows text →
      Yields (skipFrom bound .behindValue opened) text () rest →
      Yields (skipFrom (bound + 1) .atValue opened) (gap ++ (c :: others ++ text)) () rest) :
    IsPassed (c :: others) := by
  intro gap text rest opened rounds isGap follows behind
  have once : Passes (rounds + 1) .atValue opened (gap ++ (c :: others ++ text)) rest :=
    .round fun bound enough => round isGap follows (behind bound enough)
  exact once.mono (by simp; omega)

theorem isPassed_word {spelled : List Char}
    (known : spelled ∈ ["null".toList, "true".toList, "false".toList]) : IsPassed spelled := by
  simp only [List.mem_cons, List.not_mem_nil, or_false] at known
  rcases known with rfl | rfl | rfl
  all_goals
    refine isPassed_of_round fun isGap _ onwards => ?_
    exact .bind (.toValue isGap rfl) (.bind (.drop _ _) (.bind (.word _ _) onwards))

theorem isPassed_string {text : String} {spelled : List Char}
    (spells : SpellsString text spelled) : IsPassed spelled := by
  have read := yields_skipString spells
  obtain ⟨inner, -, rfl⟩ := spells
  refine isPassed_of_round fun isGap _ onwards => ?_
  exact .bind (.toValue isGap rfl) (.bind (read _) onwards)

theorem isPassed_number {spelled : List Char} (isMagnitude : IsMagnitude spelled) :
    IsPassed spelled := by
  have read : ∀ {text}, Follows text → Yields skipNumber (spelled ++ text) () text :=
    yields_skipNumber isMagnitude
  obtain ⟨c, others, rfl, isDigit⟩ := isMagnitude.begins
  have begins : Begins (.unsigned 0) c := isDigit
  refine isPassed_of_round fun isGap follows onwards => ?_
  refine .bind (.toValue isGap begins.solid.1) ?_
  -- No other value begins with a digit.
  split
  case h_7 =>
    have unsigned : c ≠ '-' := by
      rintro rfl
      cases isDigit
    rw [if_neg unsigned, if_pos isDigit]
    exact .bind (read follows) onwards
  all_goals cases isDigit

theorem isPassed_negative {spelled : List Char} (isMagnitude : IsMagnitude spelled) :
    IsPassed ('-' :: spelled) := by
  refine isPassed_of_round fun isGap follows onwards => ?_
  exact .bind (.toValue isGap rfl)
    (.bind (.drop '-' _) (.bind (yields_skipNumber isMagnitude follows) onwards))

/-! ## Lists and objects -/

/-- Go to the value of the next item of a list, or, behind its key, of the next entry of an object,
and read on from there. -/
def skipPart (closing : Char) (outer : List Char) (bound : Nat) : Read Unit := do
  if closing = '\x7d' then
    match ← next with
    | some '"' => do
      skipString
      colon
    | some _ => failAhead .keyNotString
    | none => failAhead .endInObject
  skipFrom bound .atValue (closing :: outer)

/-- An item of a list or an entry of an object is read past in no more than twice as many rounds as
it has characters. -/
structure IsPart (closing : Char) (part : List Char) : Prop where
  begins : ∃ c others, part = c :: others ∧ isSpace c = false ∧ c ≠ closing
  passes : ∀ {gap text rest opened : List Char} {rounds bound : Nat}, IsGap gap → Follows text →
    Passes rounds .behindValue (closing :: opened) text rest →
    rounds + 2 * part.length ≤ bound →
    Yields (skipPart closing opened bound) (gap ++ (part ++ text)) () rest

/-- An item of a list is read past as a value is. -/
theorem IsPassed.isPart {spelled : List Char} (isPassed : IsPassed spelled)
    (begins : ∃ c others, spelled = c :: others ∧ isSpace c = false ∧ c ≠ ']') :
    IsPart ']' spelled := by
  refine ⟨begins, fun isGap follows behind enough => ?_⟩
  exact isPassed isGap follows behind _ enough

/-- An entry of an object is read past if its value is. -/
theorem IsPassed.isPart_entry {entry : String × List Char} (isPassed : IsPassed entry.2)
    {part : List Char} (spells : SpellsEntry entry part) : IsPart '\x7d' part := by
  obtain ⟨name, front, back, spellsKey, isFront, isBack, rfl⟩ := spells
  have read := yields_skipString spellsKey
  obtain ⟨inner, -, rfl⟩ := spellsKey
  refine ⟨⟨_, _, rfl, rfl, by decide⟩, fun {gap text rest opened rounds bound} isGap follows
    behind enough => ?_⟩
  simp only [List.length_cons, List.length_append] at enough
  have value := isPassed isBack follows behind bound (by omega)
  have key := read (front ++ ':' :: (back ++ (entry.2 ++ text)))
  simp only [List.append_assoc, List.cons_append, List.nil_append] at key ⊢
  refine .bind (.next isGap (by rintro c ⟨⟩; rfl)) ?_
  exact .bind key (.bind (yields_colon isFront _) value)

/-- The end of a list or of an object is taken up. -/
theorem passes_end {closing : Char} (solid : isSpace closing = false) {state : Skipping}
    (inside : state ≠ .atValue) {gap tail rest opened : List Char} {rounds : Nat}
    (isGap : IsGap gap) (behind : Passes rounds .behindValue opened tail rest) :
    Passes (rounds + 1) state (closing :: opened) (gap ++ closing :: tail) rest := by
  refine .round fun bound enough => ?_
  have onwards := behind bound enough
  have next : Yields next (gap ++ closing :: tail) (some closing) (closing :: tail) :=
    .next isGap (by rintro c ⟨⟩; exact solid)
  cases state with
  | atValue => exact absurd rfl inside
  | behindValue | atStart =>
    refine .bind next ?_
    dsimp only
    rw [if_pos rfl]
    exact .bind (.drop closing _) onwards

/-- One comes to the first part of a list or of an object. -/
theorem passes_firstPart {closing : Char} {front part text rest opened : List Char} {rounds : Nat}
    (isPart : IsPart closing part) (isFront : IsGap front) (follows : Follows text)
    (behind : Passes rounds .behindValue (closing :: opened) text rest) :
    Passes (rounds + 2 * part.length + 1) .atStart (closing :: opened) (front ++ (part ++ text))
      rest := by
  obtain ⟨⟨c, others, rfl, solid, notEnd⟩, passes⟩ := isPart
  refine .round fun bound enough => ?_
  have nothing : IsGap [] := List.forall_mem_nil _
  have onwards := passes nothing follows behind enough
  refine .bind (.next isFront (by rintro d ⟨⟩; exact solid)) ?_
  rw [List.cons_append, List.head?_cons]
  dsimp only
  rw [if_neg notEnd, if_pos rfl]
  exact onwards

/-- One comes to another part of a list or of an object, behind a comma. -/
theorem passes_nextPart {closing : Char} (notComma : closing ≠ ',')
    {gap front part text rest opened : List Char} {rounds : Nat} (isPart : IsPart closing part)
    (isGap : IsGap gap) (isFront : IsGap front) (follows : Follows text)
    (behind : Passes rounds .behindValue (closing :: opened) text rest) :
    Passes (rounds + 2 * part.length + 1) .behindValue (closing :: opened)
      (gap ++ ',' :: (front ++ (part ++ text))) rest := by
  refine .round fun bound enough => ?_
  have onwards := isPart.passes isFront follows behind enough
  refine .bind (.next isGap (by rintro d ⟨⟩; rfl)) ?_
  rw [List.head?_cons]
  dsimp only
  rw [if_neg notComma.symm, if_neg nofun, if_pos rfl]
  exact .bind (.drop ',' _) onwards

/-- The parts of a list or of an object are read past, up to its end. -/
theorem passes_parts {closing : Char} (solid : isSpace closing = false) (notComma : closing ≠ ',')
    {parts : List (List Char)} {inner tail rest opened : List Char} {rounds : Nat}
    (listed : Listed parts inner) (each : ∀ part ∈ parts, IsPart closing part)
    (closes : Follows (closing :: tail)) (behind : Passes rounds .behindValue opened tail rest) :
    Passes (rounds + 2 * inner.length + 3) .atStart (closing :: opened) (inner ++ closing :: tail)
      rest := by
  -- Every character but those of the tail is worth two rounds, and the start is worth one.
  have all := listed.through (List.cons_ne_nil closing tail) closes
    (motive := fun _ first parts text => (∀ part ∈ parts, IsPart closing part) →
      tail.length < text.length ∧
        Passes (rounds + 2 * (text.length - tail.length) + if first then 1 else 0)
          (if first then .atStart else .behindValue) (closing :: opened) text rest)
    (fun _ first gap isGap _ => by
      have long : tail.length < (gap ++ closing :: tail).length := by simp; omega
      refine ⟨long, fun bound enough => ?_⟩
      refine passes_end solid ?_ isGap behind bound (by omega)
      cases first <;> nofun)
    (fun _ first lead front part text others leads isFront follows ih each => by
      obtain ⟨long, onwards⟩ := ih fun part member => each part (List.mem_cons_of_mem _ member)
      have isPart := each part List.mem_cons_self
      refine ⟨by simp only [List.length_append]; omega, fun bound enough => ?_⟩
      cases first with
      | true =>
        obtain rfl : lead = [] := leads
        simp only [List.length_append, List.length_nil, if_true] at enough
        exact passes_firstPart isPart isFront follows onwards bound (by simp; omega)
      | false =>
        obtain ⟨gap, isGap, rfl⟩ : ∃ gap, IsGap gap ∧ lead = gap ++ [','] := leads
        simp only [List.length_append, List.length_singleton] at enough
        rw [List.append_assoc, List.singleton_append]
        exact passes_nextPart notComma isPart isGap isFront follows onwards bound (by simp; omega))
    each
  intro bound enough
  refine all.2 bound ?_
  simp only [List.length_append, List.length_cons, if_true]
  omega

/-! ## Any value -/

/-- A list is read past if its items are. -/
theorem isPassed_list {items : List (List Char)} {spelled : List Char}
    (spells : SpellsList items spelled) (each : ∀ item ∈ items, IsPart ']' item) :
    IsPassed spelled := by
  obtain ⟨inner, listed, rfl⟩ := spells
  intro gap text rest opened rounds isGap _ behind
  have parts := passes_parts rfl (by decide) listed each (follows_bracket text) behind
  simp only [List.append_assoc, List.cons_append, List.nil_append]
  refine Passes.mono (.round fun bound enough => ?_) (show rounds + 2 * inner.length + 3 + 1 ≤ _ by
    simp; omega)
  exact .bind (.toValue isGap rfl) (.bind (.drop '[' _) (parts bound enough))

/-- Entries are read past if their values are. -/
theorem areParts_of_spells {entries : List (String × List Char)} {parts : List (List Char)}
    (spells : List.Forall₂ SpellsEntry entries parts) (each : ∀ entry ∈ entries, IsPassed entry.2) :
    ∀ part ∈ parts, IsPart '\x7d' part := by
  induction spells with
  | nil => exact nofun
  | cons first _ ih =>
    have here : IsPassed _ := each _ List.mem_cons_self
    exact List.forall_mem_cons.mpr ⟨IsPassed.isPart_entry here first,
      ih fun entry member => each entry (List.mem_cons_of_mem _ member)⟩

/-- An object is read past if its entries are. -/
theorem isPassed_object {entries : List (String × List Char)} {spelled : List Char}
    (spells : SpellsObject entries spelled) (each : ∀ entry ∈ entries, IsPassed entry.2) :
    IsPassed spelled := by
  obtain ⟨parts, inner, spellsEach, listed, rfl⟩ := spells
  have areParts := areParts_of_spells spellsEach each
  intro gap text rest opened rounds isGap _ behind
  have parts := passes_parts rfl (by decide) listed areParts (follows_brace text) behind
  simp only [List.append_assoc, List.cons_append, List.nil_append]
  refine Passes.mono (.round fun bound enough => ?_) (show rounds + 2 * inner.length + 3 + 1 ≤ _ by
    simp; omega)
  exact .bind (.toValue isGap rfl) (.bind (.drop '\x7b' _) (parts bound enough))

/-- Every value is read past. -/
theorem isPassed_of_isJson {spelled : List Char} (isJson : IsJson spelled) : IsPassed spelled := by
  induction isJson with
  | word known => exact isPassed_word known
  | number isMagnitude => exact isPassed_number isMagnitude
  | negative isMagnitude => exact isPassed_negative isMagnitude
  | string spells => exact isPassed_string spells
  | list spells each ih =>
    exact isPassed_list spells fun item member =>
      IsPassed.isPart (ih item member) (each item member).begins
  | object spells _ ih => exact isPassed_object spells ih

/-- **A value of any kind is read past.** -/
theorem yields_skip {gap spelled rest : List Char} (isGap : IsGap gap) (isJson : IsJson spelled)
    (follows : Follows rest) : Yields skip (gap ++ (spelled ++ rest)) () rest := by
  have ended : Passes 1 .behindValue [] rest rest := .round fun _ _ => .pure () rest
  refine .bind (.remaining _) (isPassed_of_isJson isJson isGap follows ended _ ?_)
  simp only [List.length_append]
  omega

end Read

end BundleFinish.JsonText
