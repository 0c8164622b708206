import BundleFinish.Pattern.Regex

/-! # The space of compiled patterns

A pattern is compiled into an automaton that reads a match octet by octet, from its end to its
start. A set of characters is written out as ranges of octets: its characters are cut into ranges
whose encodings have a range of values for each octet, and encodings that begin alike share states.
Repetitions are written out in full. What this counts is the space that the engine asks for while it
builds that automaton, before its own rewriting of alternatives, which may save a little of it. -/

namespace BundleFinish.Pattern

/-! ## Sets as ranges -/

/-- Ranges of code points, both ends included. -/
abbrev Ranges := List (Nat × Nat)

namespace Ranges

/-- Add a range to ranges that stand in order and apart, so that they stay so. -/
def insert (first last : Nat) : Ranges → Ranges
  | [] => [(first, last)]
  | (low, high) :: others =>
    if last + 1 < low then (first, last) :: (low, high) :: others
    else if high + 1 < first then (low, high) :: insert first last others
    else insert (min first low) (max last high) others

/-- The union of ranges with ranges that stand in order and apart. -/
def union (a b : Ranges) : Ranges :=
  a.foldr (fun range seen => seen.insert range.1 range.2) b

/-- The largest code point. -/
def largestCode : Nat := 0x10ffff

/-- The code points from one on that are in no range. -/
def gapsFrom (start : Nat) : Ranges → Ranges
  | [] => if start ≤ largestCode then [(start, largestCode)] else []
  | (low, high) :: others =>
    if start < low then (start, low - 1) :: gapsFrom (high + 1) others
    else gapsFrom (high + 1) others

/-- The code points that are in no range. -/
def complement (ranges : Ranges) : Ranges := gapsFrom 0 ranges

/-- The code points that are in both. -/
def intersection (a b : Ranges) : Ranges := (union a.complement b.complement).complement

end Ranges

/-- The ranges of a set, in order and apart. -/
def CharSet.ranges : CharSet → Ranges
  | .nothing => []
  | .everything => [(0, Ranges.largestCode)]
  | .interval first last => if first ≤ last then [(first, last)] else []
  | .table ranges => Ranges.union ranges.toList []
  | .blank =>
    [(9, 13), (0x20, 0x20), (0x85, 0x85), (0xa0, 0xa0), (0x1680, 0x1680), (0x2000, 0x200a),
      (0x2028, 0x2029), (0x202f, 0x202f), (0x205f, 0x205f), (0x3000, 0x3000)]
  | .union left right => left.ranges.union right.ranges
  | .intersection left right => left.ranges.intersection right.ranges
  | .complement set => set.ranges.complement
  | .folded set =>
    -- Only characters of the table have others that differ from them in case alone.
    let cased := Tables.foldings.flatMap fun pair => [pair.1, pair.2]
    Ranges.union ((cased.filter (CharSet.folded set).holds).map fun code => (code, code)) set.ranges
  | .foldedAscii set =>
    let letters := List.range' 65 26 ++ List.range' 97 26
    Ranges.union ((letters.filter (CharSet.foldedAscii set).holds).map fun code => (code, code))
      set.ranges

/-! ## Encodings -/

/-- Encodings of one length, given by the range of values for each octet. -/
abbrev Sequence := List (Nat × Nat)

/-- The values of an octet behind the first one. -/
def anyContinuation : Nat × Nat := (0x80, 0xbf)

/-- The encodings of the numbers in a range, of which a number of octets follow the first one, with
six bits each. The values of the first octet are counted from `offset`. -/
def sequencesFrom (offset : Nat) : (behind : Nat) → (first last : Nat) → List Sequence
  | 0, first, last => [[(offset + first, offset + last)]]
  | behind + 1, first, last =>
    let unit := 64 ^ (behind + 1)
    let low := first / unit
    let high := last / unit
    let startingWith := fun (value : Nat) (sequences : List Sequence) =>
      sequences.map ((offset + value, offset + value) :: ·)
    if low = high then
      startingWith low (sequencesFrom 0x80 behind (first % unit) (last % unit))
    else
      -- Only the first and the last value of this octet may go with a part of what follows.
      let whole := List.replicate (behind + 1) anyContinuation
      let isLowWhole := first % unit = 0
      let isHighWhole := last % unit = unit - 1
      let lowest := if isLowWhole then low else low + 1
      let behindHighest := if isHighWhole then high + 1 else high
      (if isLowWhole then []
        else startingWith low (sequencesFrom 0x80 behind (first % unit) (unit - 1))) ++
      (if lowest < behindHighest then [(offset + lowest, offset + behindHighest - 1) :: whole]
        else []) ++
      (if isHighWhole then []
        else startingWith high (sequencesFrom 0x80 behind 0 (last % unit)))

/-- Code points whose encodings have one length: the first and the last, how many octets follow the
first one, and where the values of that are counted from. Surrogates have no encoding. -/
def encodedPlanes : List (Nat × Nat × Nat × Nat) :=
  [(0, 0x7f, 0, 0), (0x80, 0x7ff, 1, 0xc0), (0x800, 0xd7ff, 2, 0xe0), (0xe000, 0xffff, 2, 0xe0),
    (0x10000, Ranges.largestCode, 3, 0xf0)]

/-- The encodings of the characters in a range. -/
def sequencesOf (range : Nat × Nat) : List Sequence :=
  encodedPlanes.flatMap fun (first, last, behind, offset) =>
    let low := max first range.1
    let high := min last range.2
    if low ≤ high then sequencesFrom offset behind low high else []

/-- How many elements two lists have in common at their fronts. -/
def commonFront : Sequence → Sequence → Nat
  | a :: others, b :: rest => if a = b then commonFront others rest + 1 else 0
  | _, _ => 0

/-- How many octets have to be read where encodings in order share what they begin with. -/
def sharedLength (before : Sequence) : List Sequence → Nat
  | [] => 0
  | sequence :: others =>
    sequence.length - commonFront before sequence + sharedLength sequence others

/-! ## Space -/

/-- The space for a state, in octets. -/
def stateSpace : Nat := 32

/-- The space for one of several ranges of octets that are read in one state. -/
def transitionSpace : Nat := 8

/-- The space for one of several states that a state goes on to. -/
def branchSpace : Nat := 4

/-- The space for characters with some encodings. -/
def sequencesSpace (ranges : Ranges) : Nat :=
  match ranges.flatMap sequencesOf with
  | [] => stateSpace
  | [sequence] => stateSpace * sequence.length
  | sequences =>
    if sequences.all (·.length = 1) then 2 * stateSpace + transitionSpace * sequences.length
    else stateSpace * (2 + sharedLength [] sequences) + branchSpace * sequences.length

/-- The space for one character out of a set. -/
def CharSet.space (set : CharSet) : Nat := sequencesSpace set.ranges

/-- The space for a pattern. -/
def Regex.space : Regex → Nat
  | .empty => stateSpace
  | .char set => set.space
  | .look _ => stateSpace
  -- For an empty part nothing is read.
  | .concat .empty second => second.space
  | .concat first .empty => first.space
  | .concat first second => first.space + second.space
  -- Further alternatives branch off where the first one does, and meet where it ends.
  | .either left (.either middle right) =>
    left.space + branchSpace + (Regex.either middle right).space
  | .either left right => left.space + right.space + 2 * stateSpace + 2 * branchSpace
  | .repeated least none body => max least 1 * body.space + stateSpace + branchSpace
  | .repeated least (some most) body =>
    let rounds := least * body.space
    if most ≤ least then max stateSpace rounds
    else rounds + stateSpace + (most - least) * (body.space + stateSpace + 2 * branchSpace)

end BundleFinish.Pattern
