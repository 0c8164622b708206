/-! # Similarity of words

How similar two words are, from zero to one. Characters of the words match when they are equal and
not too far apart; the measure is the mean of three shares: of the first word that matches, of the
second word that matches, and of the matches that are in order. -/

namespace BundleFinish.Text

/-- A character of a word, and whether it was matched. -/
structure Matched where
  char : Char
  isTaken : Bool
  deriving DecidableEq, Repr

/-- Match a character with the first free equal one at the places from `first` to before `last`;
`place` is the place of the first character here. None where there is no such character. -/
def takeMatch (c : Char) (first last : Nat) : (place : Nat) → List Matched → Option (List Matched)
  | _, [] => none
  | place, candidate :: rest =>
    if first ≤ place ∧ place < last ∧ candidate.char = c ∧ !candidate.isTaken then
      some ({ candidate with isTaken := true } :: rest)
    else (takeMatch c first last (place + 1) rest).map (candidate :: ·)

/-- Match the characters of a word, from the one at `place` on, with those of another. The matched
characters of the first word are given in order. -/
def takeMatches (reach : Nat) (other : List Matched) : (place : Nat) → List Char →
    List Char × List Matched
  | _, [] => ([], other)
  | place, c :: rest =>
    match takeMatch c (place - reach) (place + reach + 1) 0 other with
    | some other =>
      let (taken, other) := takeMatches reach other (place + 1) rest
      (c :: taken, other)
    | none => takeMatches reach other (place + 1) rest

/-- The similarity of two words. -/
def similarity (word other : List Char) : Float :=
  if word = [] ∧ other = [] then 1
  else
    let reach := max word.length other.length / 2 - 1
    let (taken, marked) := takeMatches reach (other.map fun c => ⟨c, false⟩) 0 word
    let matched := (marked.filter Matched.isTaken).map Matched.char
    if taken = [] then 0
    else
      let count := taken.length
      let moved := ((taken.zip matched).filter fun (a, b) => a ≠ b).length / 2
      (count.toFloat / word.length.toFloat + count.toFloat / other.length.toFloat
        + (count - moved).toFloat / count.toFloat) / 3

end BundleFinish.Text
