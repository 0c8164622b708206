import BundleFinish.Pattern.Compiled
import Mathlib.Data.List.Forall2

/-! # Single parts of a pattern as they are written

What the parser makes of a character, an escape or a class in front of any other text. A letter is
read as the character that is meant (`single_letter`), letters between brackets as the set of them
(`classItem_text`), and every such atom is one more part of the branch that is read
(`isPart_atom`). -/

namespace BundleFinish.Pattern

open Scan

/-! ## Steps of the scanner -/

namespace Scan

variable {α β : Type}

/-- A step that succeeds is followed by what comes behind it. -/
theorem bind_apply {step : Scan α} {next : α → Scan β} {before after : Scanner} {value : α}
    (done : step before = .ok (value, after)) : (step >>= next) before = next value after := by
  change Except.bind (step before) _ = _
  rw [done]
  rfl

end Scan

/-! ## Letters -/

/-- A character as it is written. -/
inductive Letter where
  /-- It stands for itself. -/
  | plain (c : Char)
  /-- It stands for itself behind a backslash. -/
  | escaped (c : Char)
  /-- Behind a backslash another character stands for it. -/
  | named (name c : Char)

namespace Letter

/-- The text of a letter. -/
def text : Letter → List Char
  | plain c => [c]
  | escaped c => ['\\', c]
  | named name _ => ['\\', name]

/-- The character that is meant. -/
def char : Letter → Char
  | plain c => c
  | escaped c => c
  | named _ c => c

/-- A letter is written so that it is read as one, where some characters do not stand for
themselves. -/
def IsProper (special : List Char) : Letter → Prop
  | plain c => c ∉ '\\' :: special
  | escaped c => isEscapable c = true
  | named name c => namedChar? name = some c

instance (special : List Char) : (letter : Letter) → Decidable (letter.IsProper special)
  | plain c => inferInstanceAs (Decidable (c ∉ '\\' :: special))
  | escaped c => inferInstanceAs (Decidable (isEscapable c = true))
  | named name c => inferInstanceAs (Decidable (namedChar? name = some c))

end Letter

/-- A character that a backslash takes its meaning from is no letter and no digit. -/
theorem isAlphanum_of_isEscapable {c : Char} (escapable : isEscapable c = true) :
    c.isAlphanum = false := by
  rw [isEscapable, Bool.or_eq_true] at escapable
  rcases escapable with special | other
  · have none : ['\\', '.', '+', '*', '?', '(', ')', '|', '[', ']', '\x7b', '\x7d', '^', '$',
        '#', '&', '-', '~'].all (fun c => !c.isAlphanum) = true := by decide
    simpa using List.all_eq_true.mp none c (by simpa [isMeta] using special)
  · simp only [Bool.and_eq_true, Bool.not_eq_true'] at other
    exact other.1.1.2

/-- Reading an escape. -/
theorem escape_escaped {c : Char} (escapable : isEscapable c = true) (mark : Mark)
    (rest : List Char) (names : List (String × Range)) :
    let behind := (mark.after '\\').after c
    escape ⟨mark, '\\' :: c :: rest, false, names⟩ =
      .ok (.literal ⟨⟨mark, behind⟩, c, false⟩, ⟨behind, rest, false, names⟩) := by
  -- Every letter and digit that has a meaning behind a backslash is another character.
  have alphanumeric := isAlphanum_of_isEscapable escapable
  have other : ∀ letter : Char, letter.isAlphanum = true → c ≠ letter := by
    rintro letter isLetter rfl
    rw [alphanumeric] at isLetter
    cases isLetter
  have digit : c.isDigit = false := by
    rw [Char.isAlphanum, Bool.or_eq_false_iff] at alphanumeric
    exact alphanumeric.2
  have short : shorthand? c = none := by
    unfold shorthand?
    split <;> first | rfl | exact absurd rfl (other _ (by decide))
  intro behind
  rw [escape, bind_apply rfl, bind_apply rfl]
  dsimp only
  rw [if_neg (by simp), bind_apply rfl]
  dsimp only [List.head?_cons]
  rw [digit, if_neg (by simp), if_neg (other 'x' rfl), if_neg (other 'u' rfl),
    if_neg (other 'U' rfl), if_neg (by simp [other 'p' rfl, other 'P' rfl]), bind_apply rfl,
    bind_apply rfl, short]
  dsimp only
  rw [if_pos escapable]
  rfl

/-- Reading a character by its name. -/
theorem escape_named {name c : Char} (named : namedChar? name = some c) (mark : Mark)
    (rest : List Char) (names : List (String × Range)) :
    let behind := (mark.after '\\').after name
    escape ⟨mark, '\\' :: name :: rest, false, names⟩ =
      .ok (.literal ⟨⟨mark, behind⟩, c, false⟩, ⟨behind, rest, false, names⟩) := by
  unfold namedChar? at named
  split at named <;> first | cases named; done | (cases named; rfl)

/-- Reading a shorthand. -/
theorem escape_shorthand {name : Char} {kind : Shorthand} {isNegated : Bool}
    (short : shorthand? name = some (kind, isNegated)) (mark : Mark) (rest : List Char)
    (names : List (String × Range)) :
    let behind := (mark.after '\\').after name
    escape ⟨mark, '\\' :: name :: rest, false, names⟩ =
      .ok (.shorthand ⟨mark, behind⟩ isNegated kind, ⟨behind, rest, false, names⟩) := by
  unfold shorthand? at short
  split at short <;> first | cases short; done | (cases short; rfl)

/-- Reading an assertion. -/
theorem escape_assertion {name : Char} {found : Assertion} (short : assertion? name = some found)
    (plain : name ≠ 'b') (mark : Mark) (rest : List Char) (names : List (String × Range)) :
    let behind := (mark.after '\\').after name
    escape ⟨mark, '\\' :: name :: rest, false, names⟩ =
      .ok (.assertion ⟨mark, behind⟩ found, ⟨behind, rest, false, names⟩) := by
  unfold assertion? at short
  split at short
  case h_3 => exact absurd rfl plain
  all_goals first | (cases short; rfl) | cases short

/-- Characters with which something other than a single part begins. -/
def outerSigns : List Char := [')', '|', '(', '[', '?', '*', '+', '\x7b']

/-- Characters that do not stand for themselves outside of classes. -/
def partSigns : List Char := outerSigns ++ ['.', '^', '$']

/-- Characters that do not stand for themselves, or not everywhere, in a class. -/
def classSigns : List Char := ['[', ']', '&', '-', '~', '^']

/-- Reading a letter as a single character. -/
theorem single_letter {letter : Letter} (proper : letter.IsProper partSigns) (mark : Mark)
    (rest : List Char) (names : List (String × Range)) :
    ∃ literal behind, literal.char = letter.char ∧
      single ⟨mark, letter.text ++ rest, false, names⟩ =
        .ok (.literal literal, ⟨behind, rest, false, names⟩) := by
  cases letter with
  | plain c =>
    have plain : c ∉ '\\' :: partSigns := proper
    refine ⟨⟨⟨mark, mark.after c⟩, c, false⟩, mark.after c, rfl, ?_⟩
    rw [single, bind_apply rfl]
    dsimp only [Letter.text, List.singleton_append, List.head?_cons]
    generalize next : some c = shown
    split
    case h_1 => exact absurd (Option.some.inj next ▸ plain) (by decide)
    case h_3 => cases next
    case h_2 =>
      obtain rfl := Option.some.inj next
      rw [bind_apply rfl, bind_apply rfl]
      split
      case h_4 => rfl
      all_goals exact absurd plain (by decide)
  | escaped c => exact ⟨_, _, rfl, escape_escaped proper mark rest names⟩
  | named name c => exact ⟨_, _, rfl, escape_named proper mark rest names⟩

/-- Reading a letter of a class. -/
theorem classSingle_letter {letter : Letter} (proper : letter.IsProper classSigns) (mark : Mark)
    (rest : List Char) (names : List (String × Range)) :
    ∃ literal behind, literal.char = letter.char ∧
      classSingle ⟨mark, letter.text ++ rest, false, names⟩ =
        .ok (.literal literal, ⟨behind, rest, false, names⟩) := by
  cases letter with
  | plain c =>
    have plain : c ∉ '\\' :: classSigns := proper
    refine ⟨⟨⟨mark, mark.after c⟩, c, false⟩, mark.after c, rfl, ?_⟩
    rw [classSingle, bind_apply rfl]
    dsimp only [Letter.text, List.singleton_append, List.head?_cons]
    generalize next : some c = shown
    split
    case h_1 => exact absurd (Option.some.inj next ▸ plain) (by decide)
    case h_3 => cases next
    case h_2 =>
      obtain rfl := Option.some.inj next
      rfl
  | escaped c => exact ⟨_, _, rfl, escape_escaped proper mark rest names⟩
  | named name c => exact ⟨_, _, rfl, escape_named proper mark rest names⟩

/-- A letter begins with a character that has no meaning of its own. -/
theorem Letter.exists_text_eq_cons {letter : Letter} {special : List Char}
    (proper : letter.IsProper special) (backslash : '\\' ∉ special) :
    ∃ c others, letter.text = c :: others ∧ c ∉ special := by
  cases letter with
  | plain c => exact ⟨c, [], rfl, fun member => proper (List.mem_cons_of_mem _ member)⟩
  | escaped c => exact ⟨_, _, rfl, backslash⟩
  | named name c => exact ⟨_, _, rfl, backslash⟩

/-! ## Classes -/

/-- No operation is next where a class goes on with another character. -/
theorem setOperation?_eq_none {c : Char} (other : c ∉ classSigns) (mark : Mark) (rest : List Char)
    (names : List (String × Range)) :
    setOperation? ⟨mark, c :: rest, false, names⟩ =
      .ok (none, ⟨mark, c :: rest, false, names⟩) := by
  rw [setOperation?, bind_apply rfl, bind_apply rfl]
  dsimp only [List.head?_cons]
  generalize next : some c = shown
  generalize (c :: rest)[1]? = second
  split
  case h_4 => rfl
  all_goals exact absurd (Option.some.inj next ▸ other) (by decide)

/-- A letter is read as a member of a class where no range begins with it. -/
theorem classRange_letter {letter : Letter} (proper : letter.IsProper classSigns) (opening : Range)
    (mark : Mark) {c : Char} (noRange : c ≠ '-') (rest : List Char)
    (names : List (String × Range)) :
    ∃ literal behind, literal.char = letter.char ∧
      classRange opening ⟨mark, letter.text ++ c :: rest, false, names⟩ =
        .ok (.literal literal, ⟨behind, c :: rest, false, names⟩) := by
  obtain ⟨literal, behind, char, read⟩ :=
    classSingle_letter proper mark (c :: rest) names
  refine ⟨literal, behind, char, ?_⟩
  rw [classRange, bind_apply read, bind_apply rfl, bind_apply rfl]
  dsimp only [List.isEmpty_cons]
  have next : (c :: rest).head? ≠ some '-' := by simpa using noRange
  rw [if_neg Bool.false_ne_true, bind_apply rfl, bind_apply rfl, if_pos (.inl next)]
  rfl

/-- Letters up to the closing bracket are the members of a class. -/
theorem classMembers_letters (nested : Scan ClassItem) (opening : Range) {letters : List Letter}
    (proper : ∀ letter ∈ letters, letter.IsProper classSigns) (bound : Nat)
    (enough : letters.length < bound) (items : List ClassItem) (mark : Mark) (rest : List Char)
    (names : List (String × Range)) :
    ∃ literals behind,
      List.Forall₂ (fun (literal : Literal) letter => literal.char = letter.char) literals
        letters ∧
      classMembers nested opening bound none items
        ⟨mark, letters.flatMap Letter.text ++ ']' :: rest, false, names⟩ =
      .ok (.union (items.reverse ++ literals.map .literal), ⟨behind, rest, false, names⟩) := by
  induction letters generalizing bound items mark with
  | nil =>
    obtain ⟨bound, rfl⟩ := Nat.exists_eq_add_one_of_ne_zero (Nat.ne_of_gt enough)
    refine ⟨[], mark.after ']', .nil, ?_⟩
    rw [classMembers, bind_apply rfl, bind_apply rfl, List.map_nil, List.append_nil]
    rfl
  | cons letter letters ih =>
    obtain ⟨bound, rfl⟩ := Nat.exists_eq_add_one_of_ne_zero (Nat.ne_zero_of_lt enough)
    obtain ⟨isProper, others⟩ := List.forall_mem_cons.mp proper
    -- What follows is another letter or the bracket, so the letter is a member by itself.
    obtain ⟨next, behind, shape, noRange⟩ : ∃ c behind,
        letters.flatMap Letter.text ++ ']' :: rest = c :: behind ∧ c ≠ '-' := by
      cases letters with
      | nil => exact ⟨_, _, rfl, by decide⟩
      | cons second letters =>
        obtain ⟨c, behind, text, other⟩ :=
          Letter.exists_text_eq_cons (others second List.mem_cons_self) (by decide)
        refine ⟨c, _, by rw [List.flatMap_cons, text]; rfl, ?_⟩
        rintro rfl
        exact other (by decide)
    obtain ⟨literal, place, char, read⟩ :=
      classRange_letter isProper opening mark noRange behind names
    obtain ⟨literals, last, alike, members⟩ :=
      ih others bound (Nat.lt_of_succ_lt_succ enough) (.literal literal :: items) place
    refine ⟨literal :: literals, last, .cons char alike, ?_⟩
    obtain ⟨c, rest', text, other⟩ := Letter.exists_text_eq_cons isProper (by decide)
    rw [List.flatMap_cons, List.append_assoc, shape]
    rw [shape, List.reverse_cons, List.append_assoc] at members
    rw [text, List.cons_append] at read ⊢
    rw [classMembers, bind_apply rfl, bind_apply rfl]
    dsimp only [List.head?_cons]
    generalize first : some c = shown
    split
    case h_1 => cases first
    case h_2 => exact absurd (Option.some.inj first ▸ other) (by decide)
    case h_3 => exact absurd (Option.some.inj first ▸ other) (by decide)
    case h_4 =>
      rw [bind_apply (setOperation?_eq_none other _ _ _)]
      dsimp only
      rw [bind_apply read]
      exact members

/-- What stands between the brackets of a class. -/
def classText (isNegated : Bool) (letters : List Letter) : List Char :=
  '[' :: (if isNegated then ['^'] else []) ++ letters.flatMap Letter.text ++ [']']

/-- The sign that negates a class is read. -/
theorem classNegation_text (isNegated : Bool) (start : Mark) {c : Char} (other : c ∉ classSigns)
    (mark : Mark) (rest : List Char) (names : List (String × Range)) :
    ∃ behind, classNegation start
        ⟨mark, (if isNegated then ['^'] else []) ++ c :: rest, false, names⟩ =
      .ok (isNegated, ⟨behind, c :: rest, false, names⟩) := by
  cases isNegated with
  | false =>
    have noSign : (c :: rest).head? ≠ some '^' := by
      rintro same
      exact absurd (Option.some.inj same ▸ other) (by decide)
    refine ⟨mark, ?_⟩
    change classNegation start ⟨mark, c :: rest, false, names⟩ = _
    rw [classNegation, bind_apply rfl, if_neg noSign]
    rfl
  | true => exact ⟨mark.after '^', rfl⟩

/-- No member of a class stands for itself only at its start, where another character is next. -/
theorem classFront_cons (start : Mark) {c : Char} (other : c ∉ classSigns) (mark : Mark)
    (rest : List Char) (names : List (String × Range)) :
    classFront start ⟨mark, c :: rest, false, names⟩ =
      .ok ([], ⟨mark, c :: rest, false, names⟩) := by
  have noSign : ∀ sign ∈ classSigns, (c :: rest).head? ≠ some sign := by
    rintro sign member same
    obtain rfl := Option.some.inj same
    exact other member
  have noHyphens : classHyphens start ((c :: rest).length + 1)
      ⟨mark, c :: rest, false, names⟩ = .ok ([], ⟨mark, c :: rest, false, names⟩) := by
    rw [classHyphens, bind_apply rfl, if_neg (noSign '-' (by decide))]
    rfl
  rw [classFront, bind_apply rfl, bind_apply noHyphens, bind_apply rfl,
    if_neg fun both => noSign ']' (by decide) both.2]
  rfl

/-- A character of a class means itself. -/
theorem classLiteral_initial (literal : Literal) :
    Mode.initial.classLiteral literal = .ok literal.char.toNat :=
  if_neg (by simp [Mode.initial])

/-- Members of a class that are single characters. -/
theorem set_union_literals {literals : List Literal} {letters : List Letter}
    (alike : List.Forall₂ (fun (literal : Literal) letter => literal.char = letter.char) literals
      letters) :
    (ClassSet.union (literals.map .literal)).set .initial =
      .ok (.unionOf (letters.map fun letter => .single letter.char)) := by
  have goesOn : ∀ seen, itemsSet .initial seen (literals.map .literal) =
      .ok ((letters.map fun letter => CharSet.single letter.char).foldl .union seen) := by
    induction alike with
    | nil => exact fun seen => rfl
    | cons same _ ih =>
      intro seen
      rw [List.map_cons, itemsSet, ClassItem.set, classLiteral_initial]
      dsimp only [bind, Except.bind, pure, Except.pure]
      rw [ih, same]
      rfl
  exact goesOn .nothing

/-! ## Meanings -/

/-- An expression stands for a regular expression, and is no deeper than a height. -/
structure Expression.Stands (expression : Expression) (regex : Regex) (height : Nat) : Prop where
  meaning : expression.meaning .initial = .ok (regex, .initial)
  shallow : ∀ depth, depth + height ≤ maxNesting → expression.tooDeep? depth = none

/-- It is no deeper than a greater height. -/
theorem Expression.Stands.mono {expression : Expression} {regex : Regex} {low high : Nat}
    (stands : expression.Stands regex low) (le : low ≤ high) : expression.Stands regex high :=
  ⟨stands.meaning, fun depth fits => stands.shallow depth (by omega)⟩

/-- The set of letters, or of all other characters. -/
def lettersSet (isNegated : Bool) (letters : List Letter) : CharSet :=
  let set := CharSet.unionOf (letters.map fun letter => .single letter.char)
  if isNegated then .complement set else set

/-- Members that are single characters are nowhere too deep. -/
theorem itemsTooDeep?_literals (depth : Nat) (literals : List Literal) :
    itemsTooDeep? depth (literals.map .literal) = none := by
  induction literals with
  | nil => rfl
  | cons literal literals ih =>
    rw [List.map_cons, itemsTooDeep?]
    exact ih

/-- There are no more letters than characters. -/
theorem length_le_flatMap_text (letters : List Letter) :
    letters.length ≤ (letters.flatMap Letter.text).length := by
  induction letters with
  | nil => exact Nat.zero_le _
  | cons letter letters ih =>
    have some : 0 < letter.text.length := by cases letter <;> exact Nat.succ_pos _
    rw [List.flatMap_cons, List.length_append, List.length_cons]
    omega

/-- A class of letters is read up to its closing bracket. -/
theorem classItem_text (isNegated : Bool) {letters : List Letter} (some : letters ≠ [])
    (proper : ∀ letter ∈ letters, letter.IsProper classSigns) (depth : Nat) (mark : Mark)
    (rest : List Char) (names : List (String × Range)) :
    ∃ range set behind,
      (Expression.bracketed range isNegated set).Stands (.char (lettersSet isNegated letters)) 2 ∧
      classItem (depth + 1) ⟨mark, classText isNegated letters ++ rest, false, names⟩ =
        .ok (.bracketed range isNegated set, ⟨behind, rest, false, names⟩) := by
  -- The class begins with its first letter, behind the sign.
  obtain ⟨c, others, shape, other⟩ : ∃ c others,
      letters.flatMap Letter.text ++ ']' :: rest = c :: others ∧ c ∉ classSigns := by
    obtain ⟨letter, letters, rfl⟩ := List.exists_cons_of_ne_nil some
    obtain ⟨c, others, text, other⟩ :=
      Letter.exists_text_eq_cons (proper letter List.mem_cons_self) (by decide)
    exact ⟨c, _, by rw [List.flatMap_cons, text]; rfl, other⟩
  obtain ⟨start, signed⟩ := classNegation_text isNegated mark other (mark.after '[') others names
  have enough : letters.length < 2 * (c :: others).length + 2 := by
    have fewer := length_le_flatMap_text letters
    have whole := congrArg List.length shape
    rw [List.length_append, List.length_cons] at whole
    omega
  -- Letters hold no class, so nothing is read one level deeper.
  obtain ⟨literals, last, alike, members⟩ := classMembers_letters (classItem depth) ⟨mark, start⟩
    proper _ enough [] start rest names
  rw [shape] at members
  refine ⟨⟨mark, last⟩, .union (literals.map .literal), last, ⟨?_, fun deep fits => ?_⟩, ?_⟩
  · rw [Expression.meaning, set_union_literals alike]
    cases isNegated <;> rfl
  · rw [Expression.tooDeep?, if_neg (by omega), ClassSet.tooDeep?,
      if_neg (by split <;> omega), itemsTooDeep?_literals]
  · have written : classText isNegated letters ++ rest =
        '[' :: ((if isNegated then ['^'] else []) ++ c :: others) := by
      rw [← shape, classText]
      simp
    have dropped : bumpInClass mark ⟨mark, classText isNegated letters ++ rest, false, names⟩ =
        .ok ((),
          ⟨mark.after '[', (if isNegated then ['^'] else []) ++ c :: others, false, names⟩) := by
      rw [written]
      cases isNegated <;> rfl
    have opened : classOpening ⟨mark, classText isNegated letters ++ rest, false, names⟩ =
        .ok ((⟨mark, start⟩, isNegated, []), ⟨start, c :: others, false, names⟩) := by
      rw [classOpening, bind_apply rfl, bind_apply dropped, bind_apply signed,
        bind_apply (classFront_cons mark other start others names)]
      rfl
    rw [classItem, bind_apply opened]
    dsimp only
    rw [bind_apply rfl, bind_apply members]
    rfl

/-! ## Single parts -/

/-- What stands for one character, or for a place between two. -/
inductive Atom where
  | letter (letter : Letter)
  /-- A set of characters by its letter. -/
  | shorthand (name : Char) (kind : Shorthand)
  /-- A place by its letter. -/
  | assertion (name : Char) (found : Assertion)
  | dot
  | lineStart
  | lineEnd
  /-- One of some letters, or any other character. -/
  | oneOf (isNegated : Bool) (letters : List Letter)

namespace Atom

/-- The text of an atom. -/
def text : Atom → List Char
  | .letter written => written.text
  | shorthand name _ => ['\\', name]
  | assertion name _ => ['\\', name]
  | dot => ['.']
  | lineStart => ['^']
  | lineEnd => ['$']
  | oneOf isNegated letters => classText isNegated letters

/-- What an atom matches. -/
def regex : Atom → Regex
  | .letter written => .char (.single written.char)
  | shorthand _ .digit => .char .digit
  | shorthand _ .space => .char .blank
  | shorthand _ .word => .char .word
  | assertion _ found => .look (found.look .initial)
  | dot => .char (.complement (.single '\n'))
  | lineStart => .look .startText
  | lineEnd => .look .endText
  | oneOf isNegated letters => .char (lettersSet isNegated letters)

/-- An atom is written so that it is read as one. -/
def IsProper : Atom → Prop
  | .letter written => written.IsProper partSigns
  | shorthand name kind => shorthand? name = some (kind, false)
  | assertion name found => assertion? name = some found ∧ name ≠ 'b'
  | oneOf _ letters => letters ≠ [] ∧ ∀ letter ∈ letters, letter.IsProper classSigns
  | _ => True

instance : (atom : Atom) → Decidable atom.IsProper
  | .letter written => inferInstanceAs (Decidable (written.IsProper partSigns))
  | shorthand name kind => inferInstanceAs (Decidable (shorthand? name = some (kind, false)))
  | assertion name found =>
    inferInstanceAs (Decidable (assertion? name = some found ∧ name ≠ 'b'))
  | oneOf _ letters =>
    inferInstanceAs (Decidable (letters ≠ [] ∧ ∀ letter ∈ letters, letter.IsProper classSigns))
  | dot => inferInstanceAs (Decidable True)
  | lineStart => inferInstanceAs (Decidable True)
  | lineEnd => inferInstanceAs (Decidable True)

end Atom

section

variable {group : Scan Expression} {first start : Mark} {done : List Expression}
  {parts : List (Mark × Expression)} {bound : Nat} {mark behind : Mark} {rest : List Char}
  {names : List (String × Range)}

/-- A character or an escape is one more part. -/
theorem branches_single {c : Char} (plain : c ∉ outerSigns)
    {others : List Char} {found : Single}
    (read : single ⟨mark, c :: others, false, names⟩ =
      .ok (found, ⟨behind, rest, false, names⟩)) :
    branches group first (bound + 1) done start parts ⟨mark, c :: others, false, names⟩ =
      branches group first bound done start ((mark, expressionOf found) :: parts)
        ⟨behind, rest, false, names⟩ := by
  rw [branches, bind_apply rfl, bind_apply rfl, bind_apply rfl]
  dsimp only [List.head?_cons]
  generalize next : some c = shown
  split
  case h_10 => rw [bind_apply read]
  case h_1 => cases next
  all_goals exact absurd (Option.some.inj next ▸ plain) (by decide)

/-- A class is one more part. -/
theorem branches_class {others : List Char} {range : Range} {isNegated : Bool} {set : ClassSet}
    (read : classItem (('[' :: others).length + 1) ⟨mark, '[' :: others, false, names⟩ =
      .ok (.bracketed range isNegated set, ⟨behind, rest, false, names⟩)) :
    branches group first (bound + 1) done start parts ⟨mark, '[' :: others, false, names⟩ =
      branches group first bound done start ((mark, .bracketed range isNegated set) :: parts)
        ⟨behind, rest, false, names⟩ := by
  rw [branches, bind_apply rfl, bind_apply rfl, bind_apply rfl]
  have counted : remaining ⟨mark, '[' :: others, false, names⟩ =
      .ok (('[' :: others).length, ⟨mark, '[' :: others, false, names⟩) := rfl
  exact (bind_apply counted).trans (bind_apply read)

/-- A group is one more part. -/
theorem branches_group {others : List Char} {expression : Expression}
    (read : group ⟨mark, '(' :: others, false, names⟩ =
      .ok (expression, ⟨behind, rest, false, names⟩)) :
    branches group first (bound + 1) done start parts ⟨mark, '(' :: others, false, names⟩ =
      branches group first bound done start ((mark, expression) :: parts)
        ⟨behind, rest, false, names⟩ := by
  rw [branches, bind_apply rfl, bind_apply rfl, bind_apply rfl]
  exact bind_apply read

end

/-! ## Parts -/

/-- In front of some text, a text is read as one more part, which stands for a regular expression
and can be repeated. What is left of the bound on the parts that follow is enough for the rest. -/
def IsPart (group : Scan Expression) (text behind : List Char) (regex : Regex) (height : Nat) :
    Prop :=
  ∀ first done start parts bound mark names, text.length ≤ bound →
    ∃ expression last less, expression.Stands regex height ∧
      expression.isUnrepeatable = false ∧ bound ≤ less + text.length ∧
      branches group first bound done start parts ⟨mark, text ++ behind, false, names⟩ =
        branches group first less done start ((mark, expression) :: parts)
          ⟨last, behind, false, names⟩

variable {group : Scan Expression}

/-- A single character or escape is a part. -/
theorem isPart_single {c : Char} (plain : c ∉ outerSigns)
    {others behind : List Char} {regex : Regex}
    (read : ∀ mark names, ∃ found last, (expressionOf found).Stands regex 2 ∧
      single ⟨mark, c :: (others ++ behind), false, names⟩ =
        .ok (found, ⟨last, behind, false, names⟩)) :
    IsPart group (c :: others) behind regex 2 := by
  intro first done start parts bound mark names enough
  obtain ⟨bound, rfl⟩ := Nat.exists_eq_add_one_of_ne_zero (Nat.ne_zero_of_lt enough)
  obtain ⟨found, last, stands, read⟩ := read mark names
  exact ⟨expressionOf found, last, bound, stands, by cases found <;> rfl,
    by rw [List.length_cons]; omega, branches_single plain read⟩

/-- An escape is a part. -/
theorem isPart_escape {name : Char} {behind : List Char} {regex : Regex}
    (read : ∀ mark names, ∃ found last, (expressionOf found).Stands regex 2 ∧
      escape ⟨mark, '\\' :: name :: behind, false, names⟩ =
        .ok (found, ⟨last, behind, false, names⟩)) :
    IsPart group ['\\', name] behind regex 2 :=
  isPart_single (by decide) read

/-- A literal stands for its character. -/
theorem stands_literal {literal : Literal} {c : Char} (same : literal.char = c) :
    (Expression.literal literal).Stands (.char (.single c)) 2 := by
  refine ⟨?_, fun depth fits => rfl⟩
  rw [Expression.meaning, Mode.literal, if_neg (by simp [Mode.initial]), same]
  rfl

/-- An atom is a part. -/
theorem isPart_atom {atom : Atom} (proper : atom.IsProper) (behind : List Char) :
    IsPart group atom.text behind atom.regex 2 := by
  cases atom with
  | letter letter =>
    obtain ⟨c, others, text, other⟩ := Letter.exists_text_eq_cons proper (by decide)
    have plain : c ∉ outerSigns := by
      intro member
      exact other (List.mem_append_left _ member)
    change IsPart group letter.text behind (.char (.single letter.char)) 2
    rw [text]
    refine isPart_single plain fun mark names => ?_
    obtain ⟨literal, last, same, read⟩ := single_letter proper mark behind names
    rw [text] at read
    exact ⟨.literal literal, last, stands_literal same, read⟩
  | shorthand name kind =>
    refine isPart_escape fun mark names => ⟨_, _, ⟨?_, fun depth fits => rfl⟩,
      escape_shorthand proper mark behind names⟩
    cases kind <;> rfl
  | assertion name found =>
    exact isPart_escape fun mark names => ⟨_, _, ⟨rfl, fun depth fits => rfl⟩,
      escape_assertion proper.1 proper.2 mark behind names⟩
  | dot =>
    exact isPart_single (by decide) fun mark names => ⟨_, _, ⟨rfl, fun depth fits => rfl⟩, rfl⟩
  | lineStart =>
    exact isPart_single (by decide) fun mark names => ⟨_, _, ⟨rfl, fun depth fits => rfl⟩, rfl⟩
  | lineEnd =>
    exact isPart_single (by decide) fun mark names => ⟨_, _, ⟨rfl, fun depth fits => rfl⟩, rfl⟩
  | oneOf isNegated letters =>
    intro first done start parts bound mark names enough
    obtain ⟨bound, rfl⟩ := Nat.exists_eq_add_one_of_ne_zero (Nat.ne_zero_of_lt enough)
    obtain ⟨range, set, last, stands, read⟩ := classItem_text isNegated proper.1 proper.2
      (classText isNegated letters ++ behind).length mark behind names
    refine ⟨.bracketed range isNegated set, last, bound, stands, rfl, ?_, branches_class read⟩
    rw [Atom.text, classText, List.cons_append, List.cons_append, List.length_cons]
    omega

end BundleFinish.Pattern
