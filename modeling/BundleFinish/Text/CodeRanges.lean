/-! # Sets of characters given by ranges of code points

A class of the Unicode standard is written down as its ranges of code points, in ascending order.
Membership is a binary search. Large tables are kept as a compact text of gaps and lengths. -/

namespace BundleFinish

/-- Ranges of code points, both ends included, in ascending order and apart. -/
abbrev CodeRanges := Array (Nat × Nat)

namespace CodeRanges

/-- Search the ranges with indices in `[lo, hi)` for one that holds `code`, in at most `steps`
halvings. -/
def search (ranges : CodeRanges) (code : Nat) : (steps lo hi : Nat) → Bool
  | 0, _, _ => false
  | steps + 1, lo, hi =>
    if lo < hi then
      let mid := (lo + hi) / 2
      match ranges[mid]? with
      | none => false
      | some (first, last) =>
        if code < first then search ranges code steps lo mid
        else if last < code then search ranges code steps (mid + 1) hi
        else true
    else false

/-- Whether the code point lies in one of the ranges. The halvings suffice because each one drops
at least one range. -/
def holds (ranges : CodeRanges) (code : Nat) : Bool :=
  ranges.search code (ranges.size + 1) 0 ranges.size

/-- Whether the character lies in one of the ranges. -/
def holdsChar (ranges : CodeRanges) (c : Char) : Bool :=
  ranges.holds c.toNat

/-- The value of a hexadecimal digit in lower case, zero for any other character. -/
def hexValue (c : Char) : Nat :=
  if c.isDigit then c.toNat - 48
  else if 'a' ≤ c ∧ c ≤ 'f' then c.toNat - 87
  else 0

/-- Read a list of hexadecimal numbers, each ended by a space. -/
def readNumbers (text : String) : List Nat :=
  let step := fun (seen : Nat × List Nat) (c : Char) =>
    if c = ' ' then (0, seen.1 :: seen.2) else (seen.1 * 16 + hexValue c, seen.2)
  (text.toList.foldl step (0, [])).2.reverse

/-- Pair up gaps and lengths: every range is written as its distance from the end of the one
before it and its length less one. -/
def ofGaps (start : Nat) : List Nat → List (Nat × Nat)
  | gap :: extent :: rest =>
    (start + gap, start + gap + extent) :: ofGaps (start + gap + extent) rest
  | _ => []

/-- Read the ranges of a class from the lines of their compact text (`readNumbers`, `ofGaps`). -/
def ofLines (lines : List String) : CodeRanges :=
  (ofGaps 0 (lines.flatMap readNumbers)).toArray

end CodeRanges

end BundleFinish
