import BundleFinish.Pattern.Regex

/-! # Matching with preferences

A regular expression alone does not say which of several matches is meant. A matcher adds what is
tried first: the left branch before the right one, something before nothing, and in a repetition as
many characters as possible (`eager`) or as few. A match is found by trying these choices in order
and going back to the last open one where the text does not fit; of the places of a text the first
one where this comes to an end counts. Numbered groups keep what was read between two places of a
match, and a replacement puts them into a new text. -/

namespace BundleFinish.Pattern

/-- How far a match has come: the text before the place, backwards, the text behind it, and the
groups that are closed, the last one first. -/
structure MatchState where
  before : List Char
  rest : List Char
  groups : List (Nat × List Char)
  deriving DecidableEq, Repr

namespace MatchState

/-- The state behind one more character. -/
def past (state : MatchState) (c : Char) (rest : List Char) : MatchState :=
  { state with before := c :: state.before, rest }

/-- Close a group that was opened where `start` followed. -/
def close (state : MatchState) (number : Nat) (start : List Char) : MatchState :=
  { state with
    groups := (number, start.take (start.length - state.rest.length)) :: state.groups }

/-- What was read for a group; nothing for a group that was not closed. -/
def group (state : MatchState) (number : Nat) : List Char :=
  (state.groups.lookup number).getD []

/-- A group that is closed behind some characters holds them. -/
theorem close_append (before read rest : List Char) (groups : List (Nat × List Char))
    (number : Nat) :
    close ⟨before, rest, groups⟩ number (read ++ rest) =
      ⟨before, rest, (number, read) :: groups⟩ := by
  simp [close]

end MatchState

/-- A regular expression that says what is tried first. Only characters are repeated. -/
inductive Matcher where
  | empty
  | char (set : CharSet)
  | look (condition : Look)
  | concat (first second : Matcher)
  | either (preferred other : Matcher)
  /-- Rather once than not at all. -/
  | optional (body : Matcher)
  /-- Characters of a set, at least a number of them. -/
  | repeated (least : Nat) (eager : Bool) (set : CharSet)
  | group (number : Nat) (body : Matcher)

/-- What a match goes on with. -/
abbrev Continuation := MatchState → Option MatchState

/-- Read any number of characters of a set and go on. -/
def readMany (set : CharSet) (eager : Bool) (next : Continuation)
    (groups : List (Nat × List Char)) (before : List Char) : List Char → Option MatchState
  | [] => next ⟨before, [], groups⟩
  | c :: rest =>
    let here := next ⟨before, c :: rest, groups⟩
    if set.holds c.toNat then
      let further := readMany set eager next groups (c :: before) rest
      if eager then further.or here else here.or further
    else here

/-- Read a number of characters of a set and go on. -/
def readCount (set : CharSet) (next : Continuation) : Nat → Continuation
  | 0, state => next state
  | count + 1, state =>
    match state.rest with
    | [] => none
    | c :: rest =>
      if set.holds c.toNat then readCount set next count (state.past c rest) else none

namespace Matcher

/-- Match from a state and go on: the end of the first way that fits. -/
def run : Matcher → Continuation → Continuation
  | empty, next, state => next state
  | char set, next, state => readCount set next 1 state
  | look condition, next, state =>
    if condition.holds state.before.head? state.rest.head? then next state else none
  | concat first second, next, state => first.run (second.run next) state
  | either preferred other, next, state =>
    (preferred.run next state).or (other.run next state)
  | optional body, next, state => (body.run next state).or (next state)
  | repeated least eager set, next, state =>
    readCount set (fun read => readMany set eager next read.groups read.before read.rest) least
      state
  | group number body, next, state =>
    body.run (fun last => next (last.close number state.rest)) state

/-- Matchers one after the other. -/
def sequence (parts : List Matcher) : Matcher := parts.foldr concat empty

/-- A matcher for each character of a text. -/
def exactly (text : List Char) : List Matcher := text.map fun c => char (.single c)

/-- The regular expression that is left without preferences and groups. -/
def plain : Matcher → Regex
  | empty => .empty
  | char set => .char set
  | look condition => .look condition
  | concat first second => .concat first.plain second.plain
  | either preferred other => .either preferred.plain other.plain
  | optional body => .repeated 0 (some 1) body.plain
  | repeated least _ set => .repeated least none (.char set)
  | group _ body => body.plain

/-- The first place of a text with a match, and the end of that match. What stands before the text is
given backwards. -/
def firstFrom? (matcher : Matcher) (before : List Char) :
    List Char → Option (List Char × MatchState)
  | [] => (matcher.run some ⟨before, [], []⟩).map fun last => (before, last)
  | c :: rest =>
    match matcher.run some ⟨before, c :: rest, []⟩ with
    | some last => some (before, last)
    | none => firstFrom? matcher (c :: before) rest

/-- A part of a replacement. -/
inductive Part where
  | text (chars : List Char)
  | group (number : Nat)

/-- The text that a part of a replacement stands for behind a match. -/
def Part.chars (found : MatchState) : Part → List Char
  | text chars => chars
  | group number => found.group number

/-- Replace the first match in a text. -/
def replaceFirst (matcher : Matcher) (replacement : List Part) (text : List Char) : List Char :=
  match matcher.firstFrom? [] text with
  | some (before, found) => before.reverse ++ replacement.flatMap (Part.chars found) ++ found.rest
  | none => text

end Matcher

/-! ## Reading single characters and whole texts -/

/-- The set of one character holds that character. -/
theorem CharSet.holds_single_toNat (c d : Char) : (single c).holds d.toNat = (c == d) := by
  rw [holds_single, Bool.eq_iff_iff]
  simp only [decide_eq_true_eq, beq_iff_eq, Char.toNat_inj]

variable {set : CharSet} {next : Continuation} {groups : List (Nat × List Char)}
  {before rest : List Char} {c : Char}

namespace Matcher

@[simp] theorem run_char_nil : (char set).run next ⟨before, [], groups⟩ = none := rfl

@[simp] theorem run_char_cons :
    (char set).run next ⟨before, c :: rest, groups⟩ =
      if set.holds c.toNat then next ⟨c :: before, rest, groups⟩ else none := rfl

@[simp] theorem run_sequence_nil (state : MatchState) : (sequence []).run next state = next state :=
  rfl

@[simp] theorem run_sequence_cons (part : Matcher) (parts : List Matcher) (state : MatchState) :
    (sequence (part :: parts)).run next state = part.run ((sequence parts).run next) state := rfl

@[simp] theorem run_optional (body : Matcher) (state : MatchState) :
    (optional body).run next state = (body.run next state).or (next state) := rfl

/-- A repetition of any number of characters. -/
@[simp] theorem run_repeated_zero (eager : Bool) :
    (repeated 0 eager set).run next ⟨before, rest, groups⟩ =
      readMany set eager next groups before rest := rfl

/-- A repetition of at least one character. -/
@[simp] theorem run_repeated_one (eager : Bool) :
    (repeated 1 eager set).run next ⟨before, rest, groups⟩ =
      (char set).run (fun read => readMany set eager next read.groups read.before read.rest)
        ⟨before, rest, groups⟩ := rfl

/-- A text is read where it is a prefix of what follows. -/
theorem run_exactly (text : List Char) (parts : List Matcher) :
    (sequence (exactly text ++ parts)).run next ⟨before, rest, groups⟩ =
      if text.isPrefixOf rest then
        (sequence parts).run next ⟨text.reverse ++ before, rest.drop text.length, groups⟩
      else none := by
  induction text generalizing before rest with
  | nil => simp [exactly]
  | cons c text ih =>
    have step : sequence (exactly (c :: text) ++ parts) =
        concat (char (.single c)) (sequence (exactly text ++ parts)) := rfl
    rw [step]
    change (char (.single c)).run _ _ = _
    rcases rest with _ | ⟨d, rest⟩
    · simp
    · by_cases same : c = d
      · subst same
        simp [ih]
      · rw [run_char_cons, CharSet.holds_single_toNat]
        simp [same]

end Matcher

/-! ## Reading many characters -/

@[simp] theorem readMany_nil (eager : Bool) :
    readMany set eager next groups before [] = next ⟨before, [], groups⟩ := rfl

/-- Reading ends in front of a character that is not in the set. -/
theorem readMany_cons_of_not_holds (eager : Bool) (outside : set.holds c.toNat = false) :
    readMany set eager next groups before (c :: rest) = next ⟨before, c :: rest, groups⟩ := by
  rw [readMany, if_neg (by simp [outside])]

/-- Eager reading goes on first. -/
theorem readMany_eager_cons (inside : set.holds c.toNat = true) :
    readMany set true next groups before (c :: rest) =
      (readMany set true next groups (c :: before) rest).or
        (next ⟨before, c :: rest, groups⟩) := by
  rw [readMany, if_pos inside, if_pos rfl]

/-- Reading that is not eager stops first. -/
theorem readMany_lazy_cons (inside : set.holds c.toNat = true) :
    readMany set false next groups before (c :: rest) =
      (next ⟨before, c :: rest, groups⟩).or
        (readMany set false next groups (c :: before) rest) := by
  rw [readMany, if_pos inside, if_neg Bool.false_ne_true]

/-- Where what follows cannot begin with a character of the set, eager reading takes all of them. -/
theorem readMany_eager_of_refuses
    (refuses : ∀ before c rest, set.holds c.toNat = true →
      next ⟨before, c :: rest, groups⟩ = none) :
    readMany set true next groups before rest =
      next ⟨(rest.takeWhile fun c => set.holds c.toNat).reverse ++ before,
        rest.dropWhile fun c => set.holds c.toNat, groups⟩ := by
  induction rest generalizing before with
  | nil => rfl
  | cons c rest ih =>
    by_cases inside : set.holds c.toNat = true
    · rw [readMany_eager_cons inside, ih, refuses before c rest inside, Option.or_none]
      simp [inside]
    · rw [readMany_cons_of_not_holds true (by simpa using inside)]
      simp [inside]

end BundleFinish.Pattern
