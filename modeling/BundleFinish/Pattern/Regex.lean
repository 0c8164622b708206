import BundleFinish.Pattern.CharSet

/-! # Regular expressions and what they match

A regular expression is understood as a relation between places of a text: from where it may start to
where it may end. Places are given all at once, as one truth value for every place from the start of
the text to its end, and an expression turns possible starts into possible ends. -/

namespace BundleFinish.Pattern

/-- A condition on the two characters around a place; there is none before the start or behind the
end. -/
inductive Look where
  | startText
  | endText
  | startLine (crlf : Bool)
  | endLine (crlf : Bool)
  | wordBoundary (word : CharSet)
  | notWordBoundary (word : CharSet)
  | wordStart (word : CharSet)
  | wordEnd (word : CharSet)
  | wordStartHalf (word : CharSet)
  | wordEndHalf (word : CharSet)

namespace Look

/-- Whether a condition holds between two characters. -/
def holds (look : Look) (before after : Option Char) : Bool :=
  let isWord := fun (word : CharSet) (c : Option Char) => c.any fun c => word.holds c.toNat
  match look with
  | .startText => before.isNone
  | .endText => after.isNone
  | .startLine false => before.isNone || before == some '\n'
  | .startLine true =>
    before.isNone || before == some '\n' || (before == some '\r' && after != some '\n')
  | .endLine false => after.isNone || after == some '\n'
  | .endLine true =>
    after.isNone || after == some '\r' || (after == some '\n' && before != some '\r')
  | .wordBoundary word => isWord word before != isWord word after
  | .notWordBoundary word => isWord word before == isWord word after
  | .wordStart word => !isWord word before && isWord word after
  | .wordEnd word => isWord word before && !isWord word after
  | .wordStartHalf word => !isWord word before
  | .wordEndHalf word => !isWord word after

end Look

/-- Regular expressions. -/
inductive Regex where
  | empty
  | char (set : CharSet)
  | look (condition : Look)
  | concat (first second : Regex)
  | either (left right : Regex)
  /-- A number of times, from the least to the greatest; without a greatest any number. -/
  | repeated (least : Nat) (most : Option Nat) (body : Regex)

/-- One truth value for every place of a text. -/
abbrev Places := List Bool

namespace Places

/-- The places of either kind. -/
def or (a b : Places) : Places := List.zipWith (· || ·) a b

/-- Places one character further, behind characters of a set. -/
def step (set : CharSet) (text : List Char) (starts : Places) : Places :=
  false :: List.zipWith (fun isStart c => isStart && set.holds c.toNat) starts text

/-- The places where a condition holds. -/
def lookFrom (look : Look) (before : Option Char) : List Char → Places
  | [] => [look.holds before none]
  | c :: rest => look.holds before (some c) :: lookFrom look (some c) rest

/-- Do something a number of times. -/
def times (f : Places → Places) : Nat → Places → Places
  | 0, starts => starts
  | count + 1, starts => times f count (f starts)

/-- All places reached in up to a number of rounds. -/
def upTo (f : Places → Places) : Nat → Places → Places
  | 0, starts => starts
  | count + 1, starts => or starts (upTo f count (f starts))

end Places

namespace Regex

/-- The places where a match may end that begins at one of the given places. Repeating more often
than there are places reaches nothing new, because every round that moves on takes a character. -/
def ends (text : List Char) : Regex → Places → Places
  | .empty, starts => starts
  | .char set, starts => starts.step set text
  | .look condition, starts =>
    List.zipWith (· && ·) starts (Places.lookFrom condition none text)
  | .concat first second, starts => second.ends text (first.ends text starts)
  | .either left right, starts => (left.ends text starts).or (right.ends text starts)
  | .repeated least most body, starts =>
    -- One round more than there are characters: at least one of them stays where it is.
    let limit := text.length + 1
    let behindLeast := Places.times (body.ends text) (min least limit) starts
    let further := match most with
      | some most => min (most - least) limit
      | none => limit
    Places.upTo (body.ends text) further behindLeast

/-- Whether a match begins and ends anywhere in a text. -/
def matchesIn (regex : Regex) (text : List Char) : Bool :=
  (regex.ends text (List.replicate (text.length + 1) true)).any id

end Regex

end BundleFinish.Pattern
