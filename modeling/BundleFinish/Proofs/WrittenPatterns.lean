import BundleFinish.Proofs.WrittenParts

/-! # Whole patterns as they are written

A pattern is written as branches of parts, which may be repeated and stand in groups. Its text is
read up to its end as the expression of these parts (`reads_text`), so it is compiled to what is
written (`compile_text`). -/

namespace BundleFinish.Pattern

open Scan

variable {group : Scan Expression}

/-! ## Repetitions -/

/-- The signs of repetitions. -/
inductive Sign where
  | question
  | star
  | plus

namespace Sign

/-- The character of a sign. -/
def char : Sign → Char
  | question => '?'
  | star => '*'
  | plus => '+'

/-- The counts that a sign stands for. -/
def counts : Sign → Counts
  | question => ⟨0, some 1⟩
  | star => ⟨0, none⟩
  | plus => ⟨1, none⟩

/-- The text of a sign, with the mark of a repetition that prefers less. -/
def text (sign : Sign) (isLazy : Bool) : List Char :=
  sign.char :: if isLazy then ['?'] else []

end Sign

/-- A sign is read with its mark, where no other question mark follows. -/
theorem signCounts_text (sign : Sign) (isLazy : Bool) (counts : Counts) (mark : Mark)
    {rest : List Char} (noMark : rest.head? ≠ some '?') (names : List (String × Range)) :
    ∃ last, signCounts counts ⟨mark, sign.text isLazy ++ rest, false, names⟩ =
      .ok (counts, ⟨last, rest, false, names⟩) := by
  cases isLazy with
  | true => exact ⟨(mark.after sign.char).after '?', rfl⟩
  | false =>
    refine ⟨mark.after sign.char, ?_⟩
    cases rest with
    | nil => rfl
    | cons c rest =>
      have noLazy : lazyMark ⟨mark.after sign.char, c :: rest, false, names⟩ =
          .ok ((), ⟨mark.after sign.char, c :: rest, false, names⟩) := by
        rw [lazyMark, bind_apply rfl, if_neg noMark]
        rfl
      change signCounts counts ⟨mark, sign.char :: c :: rest, false, names⟩ = _
      have goesOn : (!(c :: rest).isEmpty) = true := rfl
      rw [signCounts, bind_apply rfl, if_pos goesOn, bind_apply noLazy]
      rfl

/-- A sign repeats the last part. -/
theorem branches_sign (sign : Sign) (isLazy : Bool) {first start place : Mark}
    {done : List Expression} {expression : Expression}
    (repeatable : expression.isUnrepeatable = false) {parts : List (Mark × Expression)}
    {bound : Nat} {mark : Mark} {rest : List Char} (noMark : rest.head? ≠ some '?')
    (names : List (String × Range)) :
    ∃ range last, branches group first (bound + 1) done start ((place, expression) :: parts)
        ⟨mark, sign.text isLazy ++ rest, false, names⟩ =
      branches group first bound done start
        ((place, .repetition range sign.counts expression) :: parts)
        ⟨last, rest, false, names⟩ := by
  obtain ⟨last, read⟩ := signCounts_text sign isLazy sign.counts mark noMark names
  have repeated : repeatLast ((place, expression) :: parts) (signCounts sign.counts)
      ⟨mark, sign.text isLazy ++ rest, false, names⟩ =
        .ok ((place, .repetition ⟨place, last⟩ sign.counts expression) :: parts,
          ⟨last, rest, false, names⟩) := by
    rw [repeatLast, repeatable, if_neg Bool.false_ne_true, bind_apply read]
    rfl
  refine ⟨⟨place, last⟩, last, ?_⟩
  have step : branches group first (bound + 1) done start ((place, expression) :: parts)
        ⟨mark, sign.text isLazy ++ rest, false, names⟩ =
      (repeatLast ((place, expression) :: parts) (signCounts sign.counts) >>= fun parts =>
        branches group first bound done start parts)
        ⟨mark, sign.text isLazy ++ rest, false, names⟩ := by
    cases sign <;> rfl
  rw [step, bind_apply repeated]

/-- What a part is repeated by, if it is. -/
abbrev Times := Option (Sign × Bool)

namespace Times

/-- The text behind a part. -/
def text : Times → List Char
  | none => []
  | some (sign, isLazy) => sign.text isLazy

/-- The part as often as it is repeated. -/
def apply : Times → Regex → Regex
  | none, regex => regex
  | some (sign, _), regex => .repeated sign.counts.least sign.counts.most regex

end Times

/-- A part that is repeated is a part, where no question mark follows. -/
theorem IsPart.times {text behind : List Char} {regex : Regex} {height : Nat} (times : Times)
    (noMark : behind.head? ≠ some '?')
    (part : IsPart group text (times.text ++ behind) regex height) :
    IsPart group (text ++ times.text) behind (times.apply regex) (height + 1) := by
  intro first done start parts bound mark names enough
  rw [List.length_append] at enough
  obtain ⟨expression, last, less, stands, repeatable, few, read⟩ :=
    part first done start parts bound mark names (by omega)
  rw [List.append_assoc, read]
  rcases times with _ | ⟨sign, isLazy⟩
  · refine ⟨expression, last, less, ⟨stands.meaning, fun depth fits => ?_⟩, repeatable, ?_, rfl⟩
    · exact stands.shallow depth (by omega)
    · rw [List.length_append]
      omega
  · have signed : 0 < (sign.text isLazy).length := Nat.succ_pos _
    change _ + (sign.text isLazy).length ≤ _ at enough
    obtain ⟨less, rfl⟩ := Nat.exists_eq_add_one_of_ne_zero (n := less) (by omega)
    obtain ⟨range, final, repeated⟩ : ∃ range final,
        branches group first (less + 1) done start ((mark, expression) :: parts)
          ⟨last, sign.text isLazy ++ behind, false, names⟩ =
        branches group first less done start
          ((mark, .repetition range sign.counts expression) :: parts)
          ⟨final, behind, false, names⟩ := branches_sign sign isLazy repeatable noMark names
    refine ⟨.repetition range sign.counts expression, final, less, ⟨?_, fun depth fits => ?_⟩, rfl,
      ?_, repeated⟩
    · rw [Expression.meaning, stands.meaning]
      rfl
    · rw [Expression.tooDeep?, if_neg (by omega)]
      exact stands.shallow _ (by omega)
    · change _ ≤ _ + (text ++ sign.text isLazy).length
      rw [List.length_append]
      omega

/-! ## Groups -/

/-- A text that begins with another character is not taken up. -/
theorem bumpIf_cons_of_ne {sign : Char} {rest : List Char} (other : rest.head? ≠ some sign)
    (text : List Char) (mark : Mark) (names : List (String × Range)) :
    bumpIf (sign :: text) ⟨mark, rest, false, names⟩ = .ok (false, ⟨mark, rest, false, names⟩) := by
  have noFront : (sign :: text).isPrefixOf rest = false := by
    cases rest with
    | nil => rfl
    | cons c rest =>
      have ne : (sign == c) = false := by
        rw [beq_eq_false_iff_ne]
        rintro rfl
        exact other rfl
      rw [List.isPrefixOf, ne, Bool.false_and]
  rw [bumpIf, bind_apply rfl]
  dsimp only
  rw [noFront, if_neg Bool.false_ne_true]
  rfl

/-- No sign for looking around is next where no question mark is. -/
theorem refuseLooks_of_ne {rest : List Char} (noMark : rest.head? ≠ some '?') (start mark : Mark)
    (names : List (String × Range)) {signs : List String}
    (marked : ∀ sign ∈ signs, sign.toList.head? = some '?') :
    refuseLooks start signs ⟨mark, rest, false, names⟩ = .ok ((), ⟨mark, rest, false, names⟩) := by
  induction signs with
  | nil => rfl
  | cons sign signs ih =>
    obtain ⟨first, others⟩ := List.forall_mem_cons.mp marked
    obtain ⟨text, shape⟩ := List.head?_eq_some_iff.mp first
    have absent := bumpIf_cons_of_ne noMark text mark names
    rw [← shape] at absent
    rw [refuseLooks, bind_apply absent, if_neg Bool.false_ne_true]
    exact ih others

/-- The text behind the parenthesis of a group, a sign where the group captures nothing. -/
def openingText (isCapturing : Bool) : List Char := if isCapturing then [] else ['?', ':']

/-- The opening of a group is read where no question mark follows. -/
theorem opening_text (isCapturing : Bool) {rest : List Char} (noMark : rest.head? ≠ some '?')
    (mark : Mark) (names : List (String × Range)) :
    ∃ paren last, opening ⟨mark, '(' :: (openingText isCapturing ++ rest), false, names⟩ =
      .ok (.group paren ⟨[]⟩, ⟨last, rest, false, names⟩) := by
  cases isCapturing with
  | false => exact ⟨_, _, rfl⟩
  | true =>
    refine ⟨⟨mark, mark.after '('⟩, mark.after '(', ?_⟩
    have looks : refuseLooks mark ["?=", "?!", "?<=", "?<!"] ⟨mark.after '(', rest, false, names⟩ =
      .ok ((), ⟨mark.after '(', rest, false, names⟩) :=
        refuseLooks_of_ne noMark mark (mark.after '(') names (by decide)
    have absent := fun text => bumpIf_cons_of_ne noMark text (mark.after '(') names
    change opening ⟨mark, '(' :: rest, false, names⟩ = _
    rw [opening, bind_apply rfl, bind_apply rfl, bind_apply rfl, bind_apply looks, bind_apply rfl]
    have long : bumpIf "?P<".toList ⟨mark.after '(', rest, false, names⟩ =
      .ok (false, ⟨mark.after '(', rest, false, names⟩) := absent ['P', '<']
    have short : bumpIf "?<".toList ⟨mark.after '(', rest, false, names⟩ =
      .ok (false, ⟨mark.after '(', rest, false, names⟩) := absent ['<']
    -- None of the signs that a group may begin with is next, so it captures without a name.
    rw [bind_apply long]
    dsimp only
    rw [if_neg Bool.false_ne_true, bind_apply short, if_neg Bool.false_ne_true,
      bind_apply (absent [])]
    rfl

/-! ## Whole patterns -/

/-- Parts one after the other. -/
def Regex.ofParts : List Regex → Regex
  | [] => .empty
  | [part] => part
  | parts => parts.foldr .concat .empty

/-- Branches to choose from, each with its parts. -/
def Regex.ofBranches : List (List Regex) → Regex
  | [] => .empty
  | [branch] => .ofParts branch
  | branch :: others => .either (.ofParts branch) (ofBranches others)

/-- A pattern as it is written. -/
inductive Written where
  /-- The end of the pattern. -/
  | finish
  /-- Another branch begins. -/
  | bar (rest : Written)
  /-- A single part, and how often it is repeated. -/
  | part (atom : Atom) (times : Times) (rest : Written)
  /-- A group, which is repeated as a whole. -/
  | group (isCapturing : Bool) (body : Written) (times : Times) (rest : Written)

namespace Written

/-- The text of a pattern. -/
def text : Written → List Char
  | .finish => []
  | .bar rest => '|' :: rest.text
  | .part atom times rest => atom.text ++ times.text ++ rest.text
  | .group isCapturing body times rest =>
    '(' :: (openingText isCapturing ++ (body.text ++ [')'])) ++ times.text ++ rest.text

/-- The parts of the first branch of a pattern, and those of the others. -/
def choices : Written → List Regex × List (List Regex)
  | .finish => ([], [])
  | .bar rest => ([], rest.choices.1 :: rest.choices.2)
  | .part atom times rest => (times.apply atom.regex :: rest.choices.1, rest.choices.2)
  | .group _ body times rest =>
    (times.apply (.ofBranches (body.choices.1 :: body.choices.2)) :: rest.choices.1,
      rest.choices.2)

/-- A part that stands once. -/
def once (atom : Atom) (rest : Written) : Written := .part atom none rest

/-- Characters that stand for themselves, one after the other. -/
def letters (text : List Char) (rest : Written) : Written :=
  text.foldr (fun c => once (.letter (.plain c))) rest

/-- What a pattern matches. -/
def regex (written : Written) : Regex :=
  .ofBranches (written.choices.1 :: written.choices.2)

/-- How deep the parts of a pattern are at most. -/
def height : Written → Nat
  | .finish => 0
  | .bar rest => rest.height
  | .part _ _ rest => max 3 rest.height
  | .group _ body _ rest => max (body.height + 4) rest.height

/-- A pattern is written so that each of its atoms is read as one. -/
def IsProper : Written → Prop
  | .finish => True
  | .bar rest => rest.IsProper
  | .part atom _ rest => atom.IsProper ∧ rest.IsProper
  | .group _ body _ rest => body.IsProper ∧ rest.IsProper

instance decidableIsProper : (written : Written) → Decidable written.IsProper
  | .finish => inferInstanceAs (Decidable True)
  | .bar rest => decidableIsProper rest
  | .part atom _ rest =>
    have := decidableIsProper rest
    inferInstanceAs (Decidable (atom.IsProper ∧ rest.IsProper))
  | .group _ body _ rest =>
    have := decidableIsProper body
    have := decidableIsProper rest
    inferInstanceAs (Decidable (body.IsProper ∧ rest.IsProper))

end Written

/-- An atom begins with a character that is no mark of a repetition. -/
theorem Atom.head?_text_append {atom : Atom} (proper : atom.IsProper) (rest : List Char) :
    (atom.text ++ rest).head? ≠ some '?' := by
  cases atom with
  | letter letter =>
    obtain ⟨c, others, text, other⟩ := Letter.exists_text_eq_cons proper (by decide)
    change (letter.text ++ rest).head? ≠ some '?'
    rw [text, List.cons_append, List.head?_cons]
    rintro same
    exact absurd (Option.some.inj same ▸ other) (by decide)
  | _ => exact fun same => absurd (Option.some.inj same) (by decide)

/-- A pattern stands at its end, or in front of the end of a group. -/
inductive Closes : List Char → Prop where
  | nil : Closes []
  | cons (others : List Char) : Closes (')' :: others)

/-- No pattern begins with the sign of a repetition. -/
theorem Written.head?_text_append {written : Written} (proper : written.IsProper)
    {behind : List Char} (closes : Closes behind) :
    (written.text ++ behind).head? ≠ some '?' := by
  cases written with
  | finish =>
    change behind.head? ≠ some '?'
    cases closes with
    | nil => exact nofun
    | cons others => exact fun same => absurd (Option.some.inj same) (by decide)
  | bar rest =>
    change some '|' ≠ some '?'
    decide
  | part atom times rest =>
    rw [text, List.append_assoc, List.append_assoc]
    exact Atom.head?_text_append proper.1 _
  | group isCapturing body times rest =>
    change some '(' ≠ some '?'
    decide

/-! ## Meanings of parts and branches -/

/-- No part is too deep where each by itself is not. -/
theorem partsTooDeep?_eq_none {expressions : List Expression} {regexes : List Regex}
    {height depth : Nat}
    (stand : List.Forall₂ (fun expression regex => expression.Stands regex height) expressions
      regexes) (fits : depth + height ≤ maxNesting) : partsTooDeep? depth expressions = none := by
  induction stand with
  | nil => rfl
  | cons stands _ ih =>
    rw [partsTooDeep?, stands.shallow depth fits]
    exact ih

/-- Parts mean what they mean one after the other. -/
theorem meaningOfParts_eq {expressions : List Expression} {regexes : List Regex} {height : Nat}
    (stand : List.Forall₂ (fun expression regex => expression.Stands regex height) expressions
      regexes) :
    meaningOfParts .initial expressions = .ok (regexes.foldr .concat .empty, .initial) := by
  induction stand with
  | nil => rfl
  | cons stands _ ih =>
    rw [meaningOfParts, stands.meaning]
    dsimp only [bind, Except.bind]
    rw [ih]
    rfl

/-- Parts one after the other stand for the regular expression of the parts. -/
theorem stands_ofParts {expressions : List Expression} {regexes : List Regex} {height : Nat}
    (stand : List.Forall₂ (fun expression regex => expression.Stands regex height) expressions
      regexes) (range : Range) :
    (Expression.ofParts range expressions).Stands (.ofParts regexes) (height + 1) := by
  have whole := meaningOfParts_eq stand
  have shallow : ∀ depth, depth + height ≤ maxNesting → partsTooDeep? depth expressions = none :=
    fun depth fits => partsTooDeep?_eq_none stand fits
  cases stand with
  | nil => exact ⟨rfl, fun depth fits => rfl⟩
  | cons first others =>
    cases others with
    | nil => exact first.mono (Nat.le_succ height)
    | cons second others =>
      refine ⟨?_, fun depth fits => ?_⟩
      · rw [Expression.ofParts, Expression.meaning, whole]
        · rfl
        all_goals simp
      · rw [Expression.ofParts, Expression.tooDeep?, if_neg (by omega)]
        · exact shallow _ (by omega)
        all_goals simp

/-- Branches mean what they mean to choose from. -/
theorem meaningOfBranches_eq {expressions : List Expression} {branches : List (List Regex)}
    {height : Nat}
    (stand : List.Forall₂ (fun expression branch => expression.Stands (.ofParts branch) height)
      expressions branches) :
    meaningOfBranches .initial expressions = .ok (.ofBranches branches, .initial) := by
  induction stand with
  | nil => rfl
  | cons first others ih =>
    cases others with
    | nil => exact first.meaning
    | cons second others =>
      rw [meaningOfBranches, first.meaning]
      · dsimp only [bind, Except.bind]
        rw [ih]
        rfl
      · simp

/-- Branches to choose from stand for the choice of what they stand for. -/
theorem stands_ofBranches {expressions : List Expression} {branches : List (List Regex)}
    {height : Nat}
    (stand : List.Forall₂ (fun expression branch => expression.Stands (.ofParts branch) height)
      expressions branches) (range : Range) :
    (Expression.ofBranches range expressions).Stands (.ofBranches branches) (height + 1) := by
  have whole := meaningOfBranches_eq stand
  have shallow : ∀ depth, depth + height ≤ maxNesting → partsTooDeep? depth expressions = none :=
    fun depth fits => partsTooDeep?_eq_none (List.forall₂_map_right_iff.mpr stand) fits
  cases stand with
  | nil => exact ⟨rfl, fun depth fits => rfl⟩
  | cons first others =>
    cases others with
    | nil => exact first.mono (Nat.le_succ height)
    | cons second others =>
      refine ⟨?_, fun depth fits => ?_⟩
      · rw [Expression.ofBranches, Expression.meaning, whole]
        all_goals simp
      · rw [Expression.ofBranches, Expression.tooDeep?, if_neg (by omega)]
        · exact shallow _ (by omega)
        all_goals simp

/-! ## Reading what is written -/

/-- Branches read before, each with the parts that it stands for. -/
abbrev BranchesStand (height : Nat) : List Expression → List (List Regex) → Prop :=
  List.Forall₂ fun expression branch => expression.Stands (.ofParts branch) (height + 1)

/-- Parts read before, with their places and what they stand for. -/
abbrev PartsStand (height : Nat) : List (Mark × Expression) → List Regex → Prop :=
  List.Forall₂ fun part regex => part.2.Stands regex height

/-- The parts of a branch stand for the regular expression of the branch. -/
theorem PartsStand.branch {height : Nat} {parts : List (Mark × Expression)} {regexes : List Regex}
    (stand : PartsStand height parts regexes) (range : Range) :
    (Expression.ofParts range (parts.reverse.map Prod.snd)).Stands (.ofParts regexes.reverse)
      (height + 1) :=
  stands_ofParts (List.forall₂_map_left_iff.mpr (List.forall₂_reverse_iff.mpr stand)) range

/-- In front of some text, a text is read to its end: whatever branches and parts were read before
it, its first parts belong to the current branch and the others are branches of their own. -/
def Reads (group : Scan Expression) (text behind : List Char)
    (choices : List Regex × List (List Regex)) (height : Nat) : Prop :=
  ∀ first done dones start parts regexes bound mark names, BranchesStand height done dones →
    PartsStand height parts regexes → text.length < bound →
    ∃ expression last,
      expression.Stands (.ofBranches
        (dones.reverse ++ (regexes.reverse ++ choices.1) :: choices.2)) (height + 2) ∧
      branches group first bound done start parts ⟨mark, text ++ behind, false, names⟩ =
        .ok (expression, ⟨last, behind, false, names⟩)

/-- Nothing more is read where the pattern or the group ends. -/
theorem reads_nil {behind : List Char} (closes : Closes behind) (height : Nat) :
    Reads group [] behind ([], []) height := by
  intro first done dones start parts regexes bound mark names doneStand partsStand enough
  obtain ⟨bound, rfl⟩ := Nat.exists_eq_add_one_of_ne_zero (Nat.ne_zero_of_lt enough)
  have all : BranchesStand height (_ :: done) (_ :: dones) :=
    .cons (partsStand.branch ⟨start, mark⟩) doneStand
  have whole := stands_ofBranches (List.forall₂_reverse_iff.mpr all) ⟨first, mark⟩
  have shape : (regexes.reverse :: dones).reverse = dones.reverse ++ [regexes.reverse ++ []] := by
    rw [List.append_nil, List.reverse_cons]
  rw [shape] at whole
  exact ⟨_, mark, whole, by cases closes <;> rfl⟩

/-- A bar ends the branch, and the parts behind it are the next one. -/
theorem Reads.bar {text behind : List Char} {choices : List Regex × List (List Regex)}
    {height : Nat} (reads : Reads group text behind choices height) :
    Reads group ('|' :: text) behind ([], choices.1 :: choices.2) height := by
  intro first done dones start parts regexes bound mark names doneStand partsStand enough
  obtain ⟨bound, rfl⟩ := Nat.exists_eq_add_one_of_ne_zero (Nat.ne_zero_of_lt enough)
  have all : BranchesStand height (_ :: done) (_ :: dones) :=
    .cons (partsStand.branch ⟨start, mark⟩) doneStand
  obtain ⟨expression, last, stands, read⟩ := reads first _ _ (mark.after '|') [] [] bound
    (mark.after '|') names all .nil (Nat.lt_of_succ_lt_succ enough)
  refine ⟨expression, last, ?_, read⟩
  rw [List.reverse_cons, List.append_assoc] at stands
  rw [List.append_nil]
  exact stands

/-- A part belongs to the branch that goes on behind it. -/
theorem IsPart.reads {text others behind : List Char} {regex : Regex}
    {choices : List Regex × List (List Regex)} {low height : Nat}
    (part : IsPart group text (others ++ behind) regex low) (fits : low ≤ height)
    (reads : Reads group others behind choices height) :
    Reads group (text ++ others) behind (regex :: choices.1, choices.2) height := by
  intro first done dones start parts regexes bound mark names doneStand partsStand enough
  rw [List.length_append] at enough
  obtain ⟨expression, last, less, stands, -, few, goesOn⟩ :=
    part first done start parts bound mark names (by omega)
  have more : PartsStand height ((mark, expression) :: parts) (regex :: regexes) :=
    .cons (stands.mono fits) partsStand
  obtain ⟨whole, final, wholeStands, read⟩ :=
    reads first done dones start _ _ less last names doneStand more (by omega)
  refine ⟨whole, final, ?_, ?_⟩
  · rw [List.reverse_cons, List.append_assoc] at wholeStands
    exact wholeStands
  · rw [List.append_assoc, goesOn, read]

/-- A group is a part, where what stands in it is read up to its parenthesis. -/
theorem isPart_group (isCapturing : Bool) {depth : Nat} {text behind : List Char}
    {choices : List Regex × List (List Regex)} {height : Nat}
    (noMark : (text ++ ')' :: behind).head? ≠ some '?')
    (reads : Reads (Scan.group depth) text (')' :: behind) choices height) :
    IsPart (Scan.group (depth + 1)) ('(' :: (openingText isCapturing ++ (text ++ [')']))) behind
      (.ofBranches (choices.1 :: choices.2)) (height + 3) := by
  intro first done start parts bound mark names enough
  obtain ⟨bound, rfl⟩ := Nat.exists_eq_add_one_of_ne_zero (Nat.ne_zero_of_lt enough)
  obtain ⟨paren, inner, opened⟩ := opening_text isCapturing noMark mark names
  obtain ⟨expression, last, stands, body⟩ := reads inner [] [] inner [] []
    (2 * (text ++ ')' :: behind).length + 2) inner names .nil .nil
    (by rw [List.length_append]; omega)
  -- A group without flags of its own leaves everything as it is around it.
  have whole : Scan.group (depth + 1)
        ⟨mark, '(' :: (openingText isCapturing ++ (text ++ ')' :: behind)), false, names⟩ =
      .ok (.group ⟨paren.first, last.after ')'⟩ ⟨[]⟩ expression,
        ⟨last.after ')', behind, false, names⟩) := by
    rw [Scan.group, bind_apply opened]
    dsimp only
    rw [bind_apply rfl, bind_apply rfl, bind_apply rfl, bind_apply rfl]
    exact (bind_apply body).trans rfl
  refine ⟨.group ⟨paren.first, last.after ')'⟩ ⟨[]⟩ expression, last.after ')', bound,
    ⟨?_, fun depth fits => ?_⟩, rfl, ?_, ?_⟩
  · rw [Expression.meaning]
    change (expression.meaning .initial >>= _) = _
    rw [stands.meaning]
    rfl
  · rw [Expression.tooDeep?, if_neg (by omega)]
    exact stands.shallow _ (by omega)
  · rw [List.length_cons]
    omega
  · have written : '(' :: (openingText isCapturing ++ (text ++ [')'])) ++ behind =
        '(' :: (openingText isCapturing ++ (text ++ ')' :: behind)) := by simp
    rw [written]
    exact branches_group whole

/-- What is written is read to its end. -/
theorem reads_text {written : Written} (proper : written.IsProper) {behind : List Char}
    (closes : Closes behind) {height depth : Nat} (shallow : written.height ≤ height)
    (nested : written.text.length < depth) :
    Reads (Scan.group depth) written.text behind written.choices height := by
  -- Behind the first part, the rest is read in front of the same text.
  induction written generalizing behind height depth with
  | finish => exact reads_nil closes height
  | bar rest ih => exact (ih proper closes shallow (Nat.lt_of_succ_lt nested)).bar
  | part atom times rest ih =>
    rw [Written.text, List.length_append] at nested
    have noMark := Written.head?_text_append proper.2 closes
    have part : IsPart (Scan.group depth) atom.text (times.text ++ (rest.text ++ behind))
      atom.regex 2 := isPart_atom proper.1 _
    exact (part.times times noMark).reads (Nat.le_trans (Nat.le_max_left _ _) shallow)
      (ih proper.2 closes (Nat.le_trans (Nat.le_max_right _ _) shallow) (by omega))
  | group isCapturing body times rest ihBody ihRest =>
    rw [Written.text, List.length_append, List.length_append, List.length_cons, List.length_append,
      List.length_append] at nested
    obtain ⟨depth, rfl⟩ := Nat.exists_eq_add_one_of_ne_zero (Nat.ne_zero_of_lt nested)
    -- What stands in the group is read up to its parenthesis, by the groups one level below.
    have closed := Closes.cons (times.text ++ (rest.text ++ behind))
    have inner : Reads (Scan.group depth) body.text _ body.choices body.height :=
      ihBody proper.1 closed (Nat.le_refl _) (by omega)
    have part := isPart_group isCapturing (Written.head?_text_append proper.1 closed) inner
    have noMark := Written.head?_text_append proper.2 closes
    exact (part.times times noMark).reads (Nat.le_trans (Nat.le_max_left _ _) shallow)
      (ihRest proper.2 closes (Nat.le_trans (Nat.le_max_right _ _) shallow) (by omega))

/-- A pattern is compiled as it is written, unless it takes too much space. -/
theorem compile_text {written : Written} (proper : written.IsProper)
    (shallow : written.height + 2 ≤ maxNesting) :
    compile (String.ofList written.text) =
      if spaceLimit < written.regex.space then .error .tooLarge
      else .ok ⟨String.ofList written.text, written.regex⟩ := by
  have reads : Reads (Scan.group (written.text.length + 1)) written.text [] written.choices
    written.height := reads_text proper .nil (Nat.le_refl _) (Nat.lt_succ_self _)
  obtain ⟨expression, last, stands, read⟩ := reads .start [] [] .start [] []
    (2 * written.text.length + 2) .start [] .nil .nil (by omega)
  have parsed : parse (String.ofList written.text) = .ok expression := by
    rw [List.append_nil] at read
    rw [parse, String.toList_ofList, bind_apply read, bind_apply rfl, if_pos List.isEmpty_nil]
    dsimp only [pure, StateT.pure, Except.pure]
    rw [stands.shallow 0 (by omega)]
  rw [compile, parsed]
  dsimp only
  rw [stands.meaning]
  rfl

end BundleFinish.Pattern
