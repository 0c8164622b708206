import BundleFinish.JsonText.Structure

/-! # JSON texts

Which texts spell a value (`JsonText.Spells`): with any white space, the entries of an object in the
order in which the value lists them, and each character of a string as itself or by any of its
escapes. Of the numbers only whole ones from zero are spelled. -/

namespace BundleFinish.JsonText

open Read (isSpace)

/-- White space of the JSON grammar, if anything. -/
def IsGap (text : List Char) : Prop := ∀ c ∈ text, isSpace c = true

/-- What may stand behind a value: nothing, white space, a comma, or the end of a list or of an
object. -/
def Follows (rest : List Char) : Prop :=
  ∀ c ∈ rest.head?, isSpace c = true ∨ c = ',' ∨ c = ']' ∨ c = '\x7d'

/-- What may stand behind a value may do so behind white space. -/
theorem Follows.append {gap rest : List Char} (isGap : IsGap gap) (follows : Follows rest) :
    Follows (gap ++ rest) := by
  rcases gap with _ | ⟨c, gap⟩
  · exact follows
  · rintro d ⟨⟩
    exact .inl (isGap c List.mem_cons_self)

theorem follows_comma (rest : List Char) : Follows (',' :: rest) := by
  rintro c ⟨⟩
  exact .inr (.inl rfl)

theorem follows_bracket (rest : List Char) : Follows (']' :: rest) := by
  rintro c ⟨⟩
  exact .inr (.inr (.inl rfl))

theorem follows_brace (rest : List Char) : Follows ('\x7d' :: rest) := by
  rintro c ⟨⟩
  exact .inr (.inr (.inr rfl))

/-! ## Strings -/

/-- The escapes of one letter, and what they stand for. -/
def shortEscapes : List (Char × Char) :=
  [('"', '"'), ('\\', '\\'), ('/', '/'), ('b', Char.ofNat 8), ('f', Char.ofNat 12), ('n', '\n'),
    ('r', '\r'), ('t', '\t')]

/-- The spellings of a character between quotes: itself, where it is no control character, no quote
and no backslash; its short escape; its code unit; or its two code units, the surrogates. -/
inductive SpellsChar (c : Char) : List Char → Prop
  | plain (shown : 0x20 ≤ c.toNat) (notQuote : c ≠ '"') (notBackslash : c ≠ '\\') :
      SpellsChar c [c]
  | short {letter : Char} (known : (letter, c) ∈ shortEscapes) : SpellsChar c ['\\', letter]
  | unit {digits : List Char} (code : Read.fourDigits? digits = some c.toNat) :
      SpellsChar c ('\\' :: 'u' :: digits)
  | pair {high low : List Char} {first second : Nat} (isHigh : 0xd800 ≤ first ∧ first ≤ 0xdbff)
      (isLow : 0xdc00 ≤ second ∧ second ≤ 0xdfff) (highCode : Read.fourDigits? high = some first)
      (lowCode : Read.fourDigits? low = some second)
      (code : c.toNat = (first - 0xd800) * 0x400 + (second - 0xdc00) + 0x10000) :
      SpellsChar c ('\\' :: 'u' :: (high ++ '\\' :: 'u' :: low))

/-- A character stands for itself or behind a backslash. -/
theorem SpellsChar.cases_front {c : Char} {front : List Char}
    (spells : SpellsChar c front) :
    (front = [c] ∧ 0x20 ≤ c.toNat ∧ c ≠ '"' ∧ c ≠ '\\') ∨
      ∃ spelled, front = '\\' :: spelled := by
  cases spells with
  | plain shown notQuote notBackslash => exact .inl ⟨rfl, shown, notQuote, notBackslash⟩
  | short | unit | pair => exact .inr ⟨_, rfl⟩

/-- The spellings of a text between quotes, character by character. -/
inductive SpellsChars : List Char → List Char → Prop
  | nil : SpellsChars [] []
  | cons {c : Char} {text front back : List Char} (first : SpellsChar c front)
      (others : SpellsChars text back) : SpellsChars (c :: text) (front ++ back)

/-- A text is no longer than its spelling. -/
theorem SpellsChars.length_le {text inner : List Char} (spells : SpellsChars text inner) :
    text.length ≤ inner.length := by
  induction spells with
  | nil => exact Nat.le_refl _
  | @cons c text front back first others ih =>
    have some : 0 < front.length := by
      rcases first.cases_front with ⟨rfl, -⟩ | ⟨spelled, rfl⟩
      · exact Nat.one_pos
      · exact Nat.succ_pos _
    rw [List.length_cons, List.length_append]
    omega

/-- The spellings of a string. -/
def SpellsString (text : String) (spelled : List Char) : Prop :=
  ∃ inner, SpellsChars text.toList inner ∧ spelled = '"' :: (inner ++ ['"'])

/-! ## Lists and objects -/

/-- Parts with commas between them, and white space around each. -/
inductive Listed : List (List Char) → List Char → Prop
  | none {gap : List Char} (isGap : IsGap gap) : Listed [] gap
  | last {front part back : List Char} (isFront : IsGap front) (isBack : IsGap back) :
      Listed [part] (front ++ (part ++ back))
  | more {front part back next inner : List Char} {others : List (List Char)}
      (isFront : IsGap front) (isBack : IsGap back) (listed : Listed (next :: others) inner) :
      Listed (part :: next :: others) (front ++ (part ++ (back ++ ',' :: inner)))

/-- What stands in front of an item or a key: nothing in front of the first one, and a comma in
front of any other. -/
def Leads (first : Bool) (lead : List Char) : Prop :=
  if first then lead = [] else ∃ gap, IsGap gap ∧ lead = gap ++ [',']

namespace Listed

variable {parts : List (List Char)} {inner close : List Char}

/-- There is at most one part more than characters. -/
theorem length_le (listed : Listed parts inner) : parts.length ≤ inner.length + 1 := by
  induction listed with
  | none => exact Nat.zero_le _
  | last => exact Nat.le_add_left _ _
  | more isFront isBack listed ih =>
    simp only [List.length_cons, List.length_append] at ih ⊢
    omega

variable {motive : (bound : Nat) → (first : Bool) → List (List Char) → List Char → Prop}

/-- What holds at the end, and in front of each part if it does behind it, holds in front of all
parts, be it the first one or one behind a comma. More steps are allowed than there are parts. -/
theorem through_of_ne_nil (listed : Listed parts inner) (some : parts ≠ [])
    (closes : Follows close)
    (stop : ∀ bound first gap, IsGap gap → motive (bound + 1) first [] (gap ++ close))
    (step : ∀ bound first lead front part behind others, Leads first lead → IsGap front →
      Follows behind → motive bound false others behind →
      motive (bound + 1) first (part :: others) (lead ++ (front ++ (part ++ behind))))
    {bound : Nat} {first : Bool} {lead : List Char} (leads : Leads first lead)
    (enough : parts.length < bound) : motive bound first parts (lead ++ (inner ++ close)) := by
  induction listed generalizing first lead bound with
  | none => exact absurd rfl some
  | last isFront isBack =>
    obtain ⟨fewer, rfl⟩ : ∃ fewer, bound = fewer + 1 + 1 := ⟨bound - 2, by simp at enough; omega⟩
    simp only [List.append_assoc]
    exact step _ _ _ _ _ _ _ leads isFront (.append isBack closes) (stop fewer false _ isBack)
  | @more front part back next inner others isFront isBack listed ih =>
    obtain ⟨fewer, rfl⟩ : ∃ fewer, bound = fewer + 1 := ⟨bound - 1, by simp at enough; omega⟩
    -- The comma is spelled behind this part, and taken up in front of the next one.
    have leadsOn : Leads false (back ++ [',']) := ⟨back, isBack, rfl⟩
    have onwards := ih (List.cons_ne_nil _ _) leadsOn (by simpa using enough)
    simp only [List.append_assoc, List.cons_append, List.nil_append] at onwards ⊢
    exact step _ _ _ _ _ _ _ leads isFront (.append isBack (follows_comma _)) onwards

/-- What holds at the end, and in front of each part if it does behind it, holds in front of all
parts, if as many steps are allowed as there are characters and one more. -/
theorem through (listed : Listed parts inner) (some : close ≠ []) (closes : Follows close)
    (stop : ∀ bound first gap, IsGap gap → motive (bound + 1) first [] (gap ++ close))
    (step : ∀ bound first lead front part behind others, Leads first lead → IsGap front →
      Follows behind → motive bound false others behind →
      motive (bound + 1) first (part :: others) (lead ++ (front ++ (part ++ behind)))) :
    motive ((inner ++ close).length + 1) true parts (inner ++ close) := by
  have enough : parts.length < (inner ++ close).length + 1 := by
    have bound := listed.length_le
    have ended := List.length_pos_iff.mpr some
    rw [List.length_append]
    omega
  have leads : Leads true [] := rfl
  rcases parts with _ | ⟨part, others⟩
  · cases listed with
    | none isGap => exact stop _ true _ isGap
  · exact listed.through_of_ne_nil (List.cons_ne_nil _ _) closes stop step leads enough

end Listed

/-! ## Values -/

mutual

/-- The spellings of a value. -/
def Spells : Value → List Char → Prop
  | .unit, spelled => spelled = "null".toList
  | .bool value, spelled => spelled = (if value then "true" else "false").toList
  | .unsigned value, spelled => spelled = (toString value).toList
  | .text value, spelled => SpellsString value spelled
  | .list items, spelled =>
    ∃ parts inner, SpellsItems items parts ∧ Listed parts inner ∧ spelled = '[' :: (inner ++ [']'])
  | .map entries, spelled =>
    ∃ parts inner, SpellsEntries entries parts ∧ Listed parts inner ∧
      spelled = '\x7b' :: (inner ++ ['\x7d'])
  | .signed _, _ | .real _, _ | .infinite _, _ | .char _, _ => False

/-- The spellings of the items of a list, one by one. -/
def SpellsItems : List Value → List (List Char) → Prop
  | [], parts => parts = []
  | item :: items, parts =>
    ∃ first others, Spells item first ∧ SpellsItems items others ∧ parts = first :: others

/-- The spellings of the entries of an object, one by one. -/
def SpellsEntries : List (String × Value) → List (List Char) → Prop
  | [], parts => parts = []
  | (key, value) :: entries, parts =>
    ∃ name front back spelled others, SpellsString key name ∧ IsGap front ∧ IsGap back ∧
      Spells value spelled ∧ SpellsEntries entries others ∧
      parts = (name ++ (front ++ ':' :: (back ++ spelled))) :: others

end

/-- The texts that spell a value, with any white space around it. -/
def SpelledBy (value : Value) (text : String) : Prop :=
  ∃ front spelled back, IsGap front ∧ IsGap back ∧ Spells value spelled ∧
    text.toList = front ++ (spelled ++ back)

end BundleFinish.JsonText
