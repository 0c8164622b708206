import BundleFinish.JsonText.Record
import BundleFinish.Proofs.JsonGrammar
import BundleFinish.Proofs.TidySettings

/-! # Reading strings and numbers

What a reader yields from a text: a value, and the rest in front of which it stops. A string is read
as the text that it spells, whatever escapes it uses (`JsonText.Read.yields_string`), and a whole
number of 64 bits as it is printed (`JsonText.Read.yields_number`). -/

namespace BundleFinish.JsonText.Read

variable {α β : Type}

/-! ## What a reader yields -/

/-- In front of a text, a reader gives a value and stops in front of the rest. -/
def Yields (read : Read α) (text : List Char) (value : α) (rest : List Char) : Prop :=
  ∀ line column, ∃ line' column',
    read ⟨line, column, text⟩ = .ok (value, ⟨line', column', rest⟩)

/-- Behind white space stands the first character that is none. -/
theorem exists_spacesFrom {gap rest : List Char} (isGap : IsGap gap)
    (solid : ∀ c ∈ rest.head?, isSpace c = false) (line column : Nat) :
    ∃ line' column', spacesFrom line column (gap ++ rest) = ⟨line', column', rest⟩ := by
  induction gap generalizing line column with
  | nil =>
    rcases rest with _ | ⟨c, rest⟩
    · exact ⟨line, column, rfl⟩
    · have shown := solid c rfl
      have notNewline : c ≠ '\n' := by
        rintro rfl
        cases shown
      exact ⟨line, column, by rw [List.nil_append, spacesFrom, if_neg notNewline, shown]; rfl⟩
  | cons c gap ih =>
    have others := ih fun d member => isGap d (List.mem_cons_of_mem _ member)
    rw [List.cons_append, spacesFrom]
    split_ifs with newline space
    · exact others _ _
    · exact others _ _
    · exact absurd (isGap c List.mem_cons_self) space

namespace Yields

theorem pure (value : α) (text : List Char) : Yields (pure value) text value text :=
  fun line column => ⟨line, column, rfl⟩

/-- A reader goes on where another one stopped. -/
theorem bind {read : Read β} {next : β → Read α} {text middle rest : List Char} {first : β}
    {value : α} (front : Yields read text first middle)
    (onwards : Yields (next first) middle value rest) :
    Yields (read >>= next) text value rest := by
  intro line column
  obtain ⟨line', column', front⟩ := front line column
  rw [bind_eq_of_ok front]
  exact onwards line' column'

theorem peek (text : List Char) : Yields peek text text.head? text :=
  fun line column => ⟨line, column, rfl⟩

theorem remaining (text : List Char) : Yields remaining text text.length text :=
  fun line column => ⟨line, column, rfl⟩

theorem drop (c : Char) (rest : List Char) : Yields drop (c :: rest) () rest := by
  intro line column
  by_cases newline : c = '\n'
  · exact ⟨line + 1, 0, by simp [Read.drop, Cursor.advance, Cursor.pass, newline]⟩
  · exact ⟨line, column + c.utf8Size, by simp [Read.drop, Cursor.advance, Cursor.pass, newline]⟩

/-- A word that is spelled out is read. -/
theorem word (letters rest : List Char) : Yields (word letters) (letters ++ rest) () rest := by
  induction letters with
  | nil => exact .pure () rest
  | cons c letters ih =>
    refine .bind (.peek _) ?_
    rw [List.cons_append, List.head?_cons]
    dsimp only
    rw [if_pos rfl]
    exact .bind (.drop c _) ih

/-- White space is skipped. -/
theorem next {gap rest : List Char} (isGap : IsGap gap)
    (solid : ∀ c ∈ rest.head?, isSpace c = false) :
    Yields next (gap ++ rest) rest.head? rest := by
  intro line column
  obtain ⟨line', column', skipped⟩ := exists_spacesFrom isGap solid line column
  have passed : spaces ⟨line, column, gap ++ rest⟩ = .ok ((), ⟨line', column', rest⟩) := by
    rw [spaces, skipped]
  exact ⟨line', column', by rw [Read.next, bind_eq_of_ok passed]; rfl⟩

/-- Where there is no white space, none is skipped. -/
theorem atNext {c : Char} (solid : isSpace c = false) (rest : List Char) :
    Yields Read.next (c :: rest) (some c) (c :: rest) :=
  have nothing : IsGap [] := nofun
  next nothing (by rintro d ⟨⟩; exact solid)

/-- White space in front of a value is skipped. -/
theorem toValue {gap rest : List Char} {c : Char} (isGap : IsGap gap) (solid : isSpace c = false) :
    Yields toValue (gap ++ c :: rest) c (c :: rest) := by
  refine .bind (.next isGap (by simpa using solid)) ?_
  exact .pure c _

end Yields

/-! ## Strings -/

/-- The four digits of an escape are read as its code unit. -/
theorem yields_hexEscape {digits : List Char} {code : Nat}
    (spelled : fourDigits? digits = some code) (rest : List Char) :
    Yields hexEscape (digits ++ rest) code rest := by
  have four : digits.length = 4 := by
    by_contra other
    rw [fourDigits?, if_neg other] at spelled
    cases spelled
  obtain ⟨a, b, c, d, rfl⟩ : ∃ a b c d, digits = [a, b, c, d] := by
    match digits, four with
    | [a, b, c, d], _ => exact ⟨a, b, c, d, rfl⟩
  have dropped : Yields (do drop; drop; drop; drop; return code) ([a, b, c, d] ++ rest) code rest :=
    .bind (.drop a _) (.bind (.drop b _) (.bind (.drop c _) (.bind (.drop d _) (.pure code rest))))
  intro line column
  obtain ⟨line', column', taken⟩ := dropped line column
  refine ⟨line', column', ?_⟩
  have here : (get : Read Cursor) ⟨line, column, [a, b, c, d] ++ rest⟩ = .ok (_, _) := rfl
  rw [hexEscape, bind_eq_of_ok here]
  dsimp only [List.cons_append, List.nil_append, List.take]
  rw [spelled]
  exact taken

/-- The second surrogate of a pair is read, and makes up the character with the first one. -/
theorem yields_secondSurrogate {first second : Nat} {digits : List Char}
    (isLow : 0xdc00 ≤ second ∧ second ≤ 0xdfff) (spelled : fourDigits? digits = some second)
    (rest : List Char) :
    Yields (secondSurrogate first) ('\\' :: 'u' :: digits ++ rest)
      (Char.ofNat ((first - 0xd800) * 0x400 + (second - 0xdc00) + 0x10000)) rest := by
  unfold secondSurrogate
  refine .bind (?_ : Yields _ _ PUnit.unit (digits ++ rest))
    (.bind (yields_hexEscape spelled rest) ?_)
  · rw [List.forIn_cons]
    refine .bind (.bind (.peek _) (.bind (.drop '\\' _) (.pure (ForInStep.yield PUnit.unit) _))) ?_
    dsimp only
    rw [List.forIn_cons]
    refine .bind (.bind (.peek _) (.bind (.drop 'u' _) (.pure (ForInStep.yield PUnit.unit) _))) ?_
    dsimp only
    rw [List.forIn_nil]
    exact .pure _ _
  · rw [if_neg (by omega)]
    exact .pure _ rest

/-- An escape is read as the character that it spells. -/
theorem yields_escape {c : Char} {spelled : List Char} (spells : SpellsChar c ('\\' :: spelled))
    (rest : List Char) : Yields escape (spelled ++ rest) c rest := by
  cases spells with
  | plain shown notQuote notBackslash => exact absurd rfl notBackslash
  | @short letter known =>
    refine .bind (.peek _) ?_
    simp only [shortEscapes, List.mem_cons, Prod.mk.injEq, List.not_mem_nil, or_false] at known
    rcases known with ⟨rfl, rfl⟩ | ⟨rfl, rfl⟩ | ⟨rfl, rfl⟩ | ⟨rfl, rfl⟩ | ⟨rfl, rfl⟩ | ⟨rfl, rfl⟩ |
      ⟨rfl, rfl⟩ | ⟨rfl, rfl⟩
    all_goals exact .bind (.drop _ _) (.pure _ _)
  | @unit digits code =>
    refine .bind (.peek _) (.bind (.drop 'u' _) (.bind (yields_hexEscape code rest) ?_))
    obtain ⟨notLow, notHigh⟩ : ¬(0xdc00 ≤ c.toNat ∧ c.toNat ≤ 0xdfff) ∧
        ¬(0xd800 ≤ c.toNat ∧ c.toNat ≤ 0xdbff) := by
      have valid : c.toNat < 0xd800 ∨ 0xdfff < c.toNat ∧ c.toNat < 0x110000 := c.valid
      omega
    rw [if_neg notLow, if_neg notHigh, Char.ofNat_toNat]
    exact .pure c rest
  | @pair high low first second isHigh isLow highCode lowCode code =>
    rw [List.cons_append, List.append_assoc]
    refine .bind (.peek _) (.bind (.drop 'u' _) (.bind (yields_hexEscape highCode _) ?_))
    rw [if_neg (by omega), if_pos isHigh, ← Char.ofNat_toNat c, code]
    exact yields_secondSurrogate isLow lowCode rest

/-- The characters of a string are read up to its closing quote. -/
theorem yields_characters {text inner : List Char} (spells : SpellsChars text inner)
    {bound : Nat} (enough : text.length < bound) (seen rest : List Char) :
    Yields (characters escape bound seen) (inner ++ '"' :: rest) (seen.reverse ++ text) rest := by
  obtain ⟨bound, rfl⟩ : ∃ fewer, bound = fewer + 1 := ⟨bound - 1, by omega⟩
  -- One step for each character of the text, however long its spelling is, and one for the quote.
  induction spells generalizing bound seen with
  | nil =>
    refine .bind (.peek _) (.bind (.drop '"' _) ?_)
    rw [List.append_nil]
    exact .pure _ rest
  | @cons c text front back first others ih =>
    rw [List.length_cons] at enough
    obtain ⟨fewer, rfl⟩ : ∃ fewer, bound = fewer + 1 := ⟨bound - 1, by omega⟩
    have onwards := ih (c :: seen) fewer (by omega)
    rw [List.reverse_cons, List.append_assoc, List.singleton_append] at onwards
    rcases first.cases_front with ⟨rfl, shown, notQuote, notBackslash⟩ | ⟨spelled, rfl⟩
    · refine .bind (.peek _) ?_
      simp only [List.cons_append, List.nil_append, List.head?_cons]
      rw [if_neg (by omega)]
      exact .bind (.drop c _) onwards
    · rw [List.append_assoc, List.cons_append]
      exact .bind (.peek _) (.bind (.drop _ _) (.bind (yields_escape first _) onwards))

/-- A string is read as the text that it spells. -/
theorem yields_string {text : String} {spelled : List Char} (spells : SpellsString text spelled)
    (rest : List Char) : Yields string (spelled ++ rest) text rest := by
  obtain ⟨inner, spells, rfl⟩ := spells
  have enough : text.toList.length < (inner ++ '"' :: rest).length + 1 := by
    have longer := spells.length_le
    rw [List.length_append]
    omega
  have read := yields_characters spells enough [] rest
  rw [List.reverse_nil, List.nil_append] at read
  rw [List.cons_append, List.append_assoc, List.singleton_append]
  refine .bind (.drop '"' _) (.bind (.remaining _) (.bind read ?_))
  rw [String.ofList_toList]
  exact .pure text rest

/-! ## Numbers -/

/-- The decimal digits of a number. -/
theorem toList_toString (n : Nat) : (toString n).toList = Nat.toDigits 10 n := by
  rw [Nat.toString_eq_repr, Nat.toList_repr]

/-- A number but zero does not begin with a zero. -/
theorem head?_toDigits_ne {n : Nat} (positive : 0 < n) :
    (Nat.toDigits 10 n).head? ≠ some '0' := by
  induction n using Nat.base_induction 10 (by decide) with
  | single digit small =>
    rw [Nat.toDigits_of_lt_base small, List.head?_singleton]
    exact fun zero => positive.ne' (Nat.digitChar_eq_zero.mp (Option.some.inj zero))
  | digit front digit small some ih =>
    rw [← Nat.toDigits_append_toDigits (by decide) some small,
      List.head?_append_of_ne_nil _ Nat.toDigits_ne_nil]
    exact ih some

/-- Digits that stand for a whole number of 64 bits all count for its significand. -/
theorem significant_eq {digits : List Char} {value : Nat} (count : Nat)
    (fits : Nat.ofDigitChars 10 digits value ≤ maxUnsigned) :
    significant value count digits = (Nat.ofDigitChars 10 digits value, count + digits.length) := by
  induction digits generalizing value count with
  | nil => rfl
  | cons c digits ih =>
    have step : Nat.ofDigitChars 10 (c :: digits) value =
        Nat.ofDigitChars 10 digits (value * 10 + (c.toNat - 48)) := by
      rw [Nat.ofDigitChars_cons, Nat.mul_comm]
      rfl
    rw [step] at fits ⊢
    have grows : value * 10 + (c.toNat - 48) ≤ maxUnsigned := by
      rw [Nat.ofDigitChars_eq_ofDigitChars_zero] at fits
      have factor := Nat.le_mul_of_pos_left (value * 10 + (c.toNat - 48))
        (Nat.pow_pos (by decide) : 0 < 10 ^ digits.length)
      omega
    rw [significant, if_neg (by omega), ih (count + 1) fits, List.length_cons, Nat.add_assoc,
      Nat.add_comm 1]

/-- A run of digits is taken up. -/
theorem yields_digits {shown rest : List Char} (areDigits : ∀ c ∈ shown, c.isDigit = true)
    (stops : ∀ c ∈ rest.head?, c.isDigit = false) : Yields digits (shown ++ rest) shown rest := by
  have taken : rest.takeWhile Char.isDigit = [] ∧ rest.dropWhile Char.isDigit = rest := by
    rcases rest with _ | ⟨c, rest⟩
    · exact ⟨rfl, rfl⟩
    · have stop := stops c rfl
      exact ⟨List.takeWhile_cons_of_neg (by simp [stop]),
        List.dropWhile_cons_of_neg (by simp [stop])⟩
  intro line column
  refine ⟨line, column + shown.length, ?_⟩
  simp only [digits, List.takeWhile_append_of_pos areDigits, List.dropWhile_append_of_pos areDigits,
    taken, List.append_nil]

/-- No number goes on behind a value. -/
theorem not_goesOn_of_follows {rest : List Char} (follows : Follows rest) :
    (∀ c ∈ rest.head?, c.isDigit = false) ∧ rest.head? ≠ some '.' ∧
      exponentNext rest.head? = false := by
  rcases rest with _ | ⟨c, rest⟩
  · exact ⟨nofun, nofun, rfl⟩
  · have behind := follows c rfl
    simp only [isSpace, Bool.or_eq_true, beq_iff_eq] at behind
    rcases behind with (((rfl | rfl) | rfl) | rfl) | rfl | rfl | rfl
    all_goals exact ⟨by simp, by simp, rfl⟩

/-- A whole number of 64 bits is read as it is printed. -/
theorem yields_number {n : Nat} (fits : n ≤ maxUnsigned) {rest : List Char}
    (follows : Follows rest) :
    Yields anyNumber ((toString n).toList ++ rest) (.unsigned n) rest := by
  obtain ⟨c, others, shape⟩ := List.exists_cons_of_ne_nil (Nat.toDigits_ne_nil (b := 10) (n := n))
  have areDigits : ∀ d ∈ c :: others, d.isDigit = true := by
    intro d member
    rw [← shape] at member
    exact Nat.isDigit_of_mem_toDigits (by decide) (by decide) member
  have isDigit := areDigits c List.mem_cons_self
  obtain ⟨stops, noPoint, noExponent⟩ := not_goesOn_of_follows follows
  have noMore : ¬(c = '0' ∧ rest.head?.any Char.isDigit = true) := by
    rintro ⟨-, digit⟩
    obtain ⟨d, first, isDigit⟩ := (Option.any_eq_true _ _).mp digit
    rw [stops d first] at isDigit
    cases isDigit
  have counted : significant 0 0 (c :: others) = (n, (c :: others).length) := by
    have value : Nat.ofDigitChars 10 (c :: others) 0 = n := by
      rw [← shape, Nat.ofDigitChars_ten_toDigits]
    rw [significant_eq 0 (value.symm ▸ fits), value, Nat.zero_add]
  have notSigned : some c ≠ some '-' := by
    rintro ⟨⟩
    cases isDigit
  rw [toList_toString, shape]
  refine .bind (.peek _) ?_
  rw [List.cons_append, List.head?_cons, if_neg notSigned]
  refine .bind (.peek _) ?_
  rw [List.head?_cons]
  dsimp only
  rw [isDigit, if_neg (by decide)]
  -- A zero is read alone, and any other number digit by digit; what follows is the same.
  by_cases zero : c = '0'
  · obtain rfl : others = [] := by
      have isZero : n = 0 := by
        by_contra some
        exact head?_toDigits_ne (Nat.pos_of_ne_zero some) (by rw [shape, zero]; rfl)
      rw [isZero, Nat.toDigits_zero] at shape
      exact (List.cons.inj shape).2.symm
    rw [if_pos zero, List.nil_append]
    refine .bind (.drop c _) (.bind (.pure [c] _) (.bind (.peek _) ?_))
    rw [if_neg noMore]
    refine .bind (.peek _) ?_
    rw [if_neg noPoint, noExponent, counted]
    exact .pure _ rest
  · rw [if_neg zero]
    refine .bind (yields_digits areDigits stops) (.bind (.peek _) ?_)
    rw [if_neg noMore]
    refine .bind (.peek _) ?_
    rw [if_neg noPoint, noExponent, counted, if_neg (by decide), if_neg (Nat.lt_irrefl _),
      if_pos (by decide)]
    exact .pure _ rest

/-! ## First characters -/

/-- What a value begins with. -/
def Begins : Value → Char → Prop
  | .unit, c => c = 'n'
  | .bool value, c => c = if value then 't' else 'f'
  | .unsigned _, c => c.isDigit = true
  | .text _, c => c = '"'
  | .list _, c => c = '['
  | .map _, c => c = '\x7b'
  | .signed _, _ | .real _, _ | .infinite _, _ | .char _, _ => False

/-- A spelled value begins with a character that tells its kind. -/
theorem exists_begins {value : Value} {spelled : List Char} (spells : Spells value spelled) :
    ∃ c rest, spelled = c :: rest ∧ Begins value c := by
  cases value with
  | unit => exact ⟨_, _, spells, rfl⟩
  | bool value => cases value <;> exact ⟨_, _, spells, rfl⟩
  | unsigned n =>
    obtain ⟨c, rest, shape⟩ := List.exists_cons_of_ne_nil (Nat.toDigits_ne_nil (b := 10) (n := n))
    refine ⟨c, rest, spells.trans ((toList_toString n).trans shape), ?_⟩
    exact Nat.isDigit_of_mem_toDigits (by decide) (by decide) (shape ▸ List.mem_cons_self)
  | text text =>
    obtain ⟨inner, -, rfl⟩ := spells
    exact ⟨_, _, rfl, rfl⟩
  | list items =>
    obtain ⟨parts, inner, -, -, rfl⟩ := spells
    exact ⟨_, _, rfl, rfl⟩
  | map entries =>
    obtain ⟨parts, inner, -, -, rfl⟩ := spells
    exact ⟨_, _, rfl, rfl⟩
  | signed | real | infinite | char => cases spells

/-- No value begins with white space, or with the end of a list. -/
theorem Begins.solid {value : Value} {c : Char} (begins : Begins value c) :
    isSpace c = false ∧ c ≠ ']' := by
  cases value with
  | unit | text | list | map =>
    obtain rfl := begins
    exact ⟨rfl, by decide⟩
  | bool value =>
    obtain rfl := begins
    cases value <;> exact ⟨rfl, by decide⟩
  | unsigned n =>
    have notDigit : ∀ d : Char, d.isDigit = false → c ≠ d := by
      rintro d other rfl
      rw [show c.isDigit = true from begins] at other
      cases other
    refine ⟨?_, notDigit ']' rfl⟩
    simp [isSpace, notDigit ' ' rfl, notDigit '\n' rfl, notDigit '\t' rfl, notDigit '\r' rfl]
  | signed | real | infinite | char => cases begins

/-- Only the value that is nothing begins with an `n`. -/
theorem Begins.eq_unit {value : Value} (begins : Begins value 'n') : value = .unit := by
  cases value with
  | unit => rfl
  | bool value => cases value <;> cases (show _ = _ from begins)
  | text | list | map | unsigned => cases (show _ = _ from begins)
  | signed | real | infinite | char => cases begins

end BundleFinish.JsonText.Read
