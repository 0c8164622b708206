import BundleFinish.Pattern.Parser
import BundleFinish.Pattern.Property
import BundleFinish.Pattern.Regex

/-! # From expressions to regular expressions

Flags hold from where they stand to the end of their group. Without Unicode only characters of ASCII
can be told apart, and a class that would match a part of another character is refused. -/

namespace BundleFinish.Pattern

/-- The switches in force. -/
structure Mode where
  caseInsensitive : Bool
  multiLine : Bool
  dotMatchesNewLine : Bool
  unicode : Bool
  crlf : Bool
  deriving DecidableEq, Repr

namespace Mode

/-- The switches at the start of a pattern. -/
def initial : Mode := ⟨false, false, false, true, false⟩

/-- The switches after some flags. -/
def apply (mode : Mode) (flags : Flags) : Mode :=
  { caseInsensitive := (flags.state? .caseInsensitive).getD mode.caseInsensitive
    multiLine := (flags.state? .multiLine).getD mode.multiLine
    dotMatchesNewLine := (flags.state? .dotMatchesNewLine).getD mode.dotMatchesNewLine
    unicode := (flags.state? .unicode).getD mode.unicode
    crlf := (flags.state? .crlf).getD mode.crlf }

/-- A set with the characters that differ only in case, where case is ignored. -/
def fold (mode : Mode) (set : CharSet) : CharSet :=
  if !mode.caseInsensitive then set
  else if mode.unicode then .folded set
  else .foldedAscii set

/-- A set or its complement. A complement has characters outside ASCII. -/
def negate (mode : Mode) (range : Range) (isNegated : Bool) (set : CharSet) :
    Except Fault CharSet :=
  if !isNegated then .ok set
  else if mode.unicode then .ok (.complement set)
  else .error ⟨.matchesBrokenText, range⟩

/-- The characters of words. -/
def word (mode : Mode) : CharSet := if mode.unicode then CharSet.word else CharSet.wordAscii

/-- The set of a shorthand. -/
def shorthand (mode : Mode) (range : Range) (isNegated : Bool) (kind : Shorthand) :
    Except Fault CharSet :=
  mode.negate range isNegated <|
    match kind, mode.unicode with
    | .digit, true => CharSet.digit
    | .digit, false => CharSet.digitAscii
    | .space, true => CharSet.blank
    | .space, false => CharSet.spaceAscii
    | .word, _ => mode.word

/-- The set of a property. -/
def property (mode : Mode) (range : Range) (isNegated : Bool) (property : Property) :
    Except Fault CharSet :=
  if !mode.unicode then .error ⟨.unicodeNotAllowed, range⟩
  else
    match property.set with
    | .ok set => mode.negate range isNegated (mode.fold set)
    | .error .name => .error ⟨.propertyNotFound, range⟩
    | .error .value => .error ⟨.propertyValueNotFound, range⟩

/-- A character outside of classes. -/
def literal (mode : Mode) (literal : Literal) : Except Fault CharSet :=
  if !mode.unicode ∧ literal.isOctet ∧ 127 < literal.char.toNat then
    .error ⟨.matchesBrokenText, literal.range⟩
  else .ok (mode.fold (.single literal.char))

/-- A character in a class. -/
def classLiteral (mode : Mode) (literal : Literal) : Except Fault Nat :=
  if !mode.unicode ∧ 127 < literal.char.toNat then
    .error ⟨if literal.isOctet then .matchesBrokenText else .unicodeNotAllowed, literal.range⟩
  else .ok literal.char.toNat

end Mode

/-- Combine two sets. -/
def SetOperation.apply : SetOperation → CharSet → CharSet → CharSet
  | .intersection, left, right => .intersection left right
  | .difference, left, right => left.difference right
  | .symmetricDifference, left, right => left.symmetricDifference right

mutual

/-- The set of a member of a class. -/
def ClassItem.set (mode : Mode) : ClassItem → Except Fault CharSet
  | .literal literal => do
    let code ← mode.classLiteral literal
    return .interval code code
  | .range _ first last => do
    let first ← mode.classLiteral first
    let last ← mode.classLiteral last
    return .interval first last
  | .ascii range isNegated kind =>
    mode.negate range isNegated (mode.fold (CharSet.ascii kind))
  | .property range isNegated property => mode.property range isNegated property
  | .shorthand range isNegated kind => mode.shorthand range isNegated kind
  | .bracketed range isNegated set => do
    mode.negate range isNegated (mode.fold (← set.set mode))

/-- The set of what stands between brackets. -/
def ClassSet.set (mode : Mode) : ClassSet → Except Fault CharSet
  | .union items => itemsSet mode .nothing items
  | .operation _ operation left right => do
    let left ← left.set mode
    let right ← right.set mode
    return operation.apply (mode.fold left) (mode.fold right)

/-- The union of a set and some members of a class. -/
def itemsSet (mode : Mode) (seen : CharSet) : List ClassItem → Except Fault CharSet
  | [] => .ok seen
  | item :: others => do
    let set ← item.set mode
    itemsSet mode (.union seen set) others

end

/-- The condition that an assertion stands for. -/
def Assertion.look (mode : Mode) : Assertion → Look
  | .startLine => if mode.multiLine then .startLine mode.crlf else .startText
  | .endLine => if mode.multiLine then .endLine mode.crlf else .endText
  | .startText => .startText
  | .endText => .endText
  | .wordBoundary => .wordBoundary mode.word
  | .notWordBoundary => .notWordBoundary mode.word
  | .wordStart => .wordStart mode.word
  | .wordEnd => .wordEnd mode.word
  | .wordStartHalf => .wordStartHalf mode.word
  | .wordEndHalf => .wordEndHalf mode.word

/-- The characters that a dot stands for. -/
def Mode.dot (mode : Mode) (range : Range) : Except Fault CharSet :=
  if !mode.unicode then .error ⟨.matchesBrokenText, range⟩
  else
    .ok <|
      if mode.dotMatchesNewLine then .everything
      else if mode.crlf then .complement (.union (.single '\n') (.single '\r'))
      else .complement (.single '\n')

mutual

/-- The meaning of an expression, and the switches that are in force behind it. -/
def Expression.meaning (mode : Mode) : Expression → Except Fault (Regex × Mode)
  | .empty => .ok (.empty, mode)
  | .flags _ flags => .ok (.empty, mode.apply flags)
  | .literal literal => do return (.char (← mode.literal literal), mode)
  | .dot range => do return (.char (← mode.dot range), mode)
  | .assertion _ assertion => .ok (.look (assertion.look mode), mode)
  | .property range isNegated property => do
    return (.char (← mode.property range isNegated property), mode)
  | .shorthand range isNegated kind => do
    return (.char (← mode.shorthand range isNegated kind), mode)
  | .bracketed range isNegated set => do
    return (.char (← mode.negate range isNegated (mode.fold (← set.set mode))), mode)
  | .repetition _ counts body => do
    let (body, mode) ← body.meaning mode
    return (.repeated counts.least counts.most body, mode)
  | .group _ flags body => do
    let (body, _) ← body.meaning (mode.apply flags)
    return (body, mode)
  | .alternation _ branches => meaningOfBranches mode branches
  | .concatenation _ parts => meaningOfParts mode parts

/-- The meaning of parts one after the other. -/
def meaningOfParts (mode : Mode) : List Expression → Except Fault (Regex × Mode)
  | [] => .ok (.empty, mode)
  | part :: others => do
    let (first, mode) ← part.meaning mode
    let (second, mode) ← meaningOfParts mode others
    return (.concat first second, mode)

/-- The meaning of branches to choose from. -/
def meaningOfBranches (mode : Mode) : List Expression → Except Fault (Regex × Mode)
  | [] => .ok (.empty, mode)
  | [branch] => branch.meaning mode
  | branch :: others => do
    let (left, mode) ← branch.meaning mode
    let (right, mode) ← meaningOfBranches mode others
    return (.either left right, mode)

end

end BundleFinish.Pattern
