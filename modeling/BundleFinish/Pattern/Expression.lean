import BundleFinish.Pattern.Fault

/-! # Pattern expressions

The syntax tree of a pattern as it is written, with the ranges that faults are reported at. -/

namespace BundleFinish.Pattern

/-- What `\d`, `\s` and `\w` stand for. -/
inductive Shorthand where
  | digit
  | space
  | word
  deriving DecidableEq, Repr

/-- Classes of ASCII characters that have a name. -/
inductive AsciiClass where
  | alnum
  | alpha
  | ascii
  | blank
  | cntrl
  | digit
  | graph
  | lower
  | print
  | punct
  | space
  | upper
  | word
  | xdigit
  deriving DecidableEq, Repr

/-- A property of characters as it is asked for. -/
inductive Property where
  /-- By one letter. -/
  | letter (c : Char)
  | named (name : String)
  /-- By a value; `differs` asks for all other values. -/
  | valued (name value : String) (differs : Bool)
  deriving DecidableEq, Repr

/-- Conditions on a place between two characters. -/
inductive Assertion where
  | startLine
  | endLine
  | startText
  | endText
  | wordBoundary
  | notWordBoundary
  | wordStart
  | wordEnd
  | wordStartHalf
  | wordEndHalf
  deriving DecidableEq, Repr

/-- Switches inside a pattern. -/
inductive Flag where
  | caseInsensitive
  | multiLine
  | dotMatchesNewLine
  | swapGreed
  | unicode
  | crlf
  | ignoreWhitespace
  deriving DecidableEq, Repr

/-- Switches turned on and off together. -/
structure Flags where
  items : List (Flag × Bool)
  deriving DecidableEq, Repr

/-- What the flags say about one switch; a later item wins. -/
def Flags.state? (flags : Flags) (flag : Flag) : Option Bool :=
  (flags.items.reverse.find? fun item => item.1 == flag).map Prod.snd

/-- A character as it is written; `isOctet` where it was given by two hexadecimal digits and stands
for an octet where Unicode is off. -/
structure Literal where
  range : Range
  char : Char
  isOctet : Bool
  deriving DecidableEq, Repr

/-- How sets of characters are combined. -/
inductive SetOperation where
  | intersection
  | difference
  | symmetricDifference
  deriving DecidableEq, Repr

mutual

/-- A member of a bracketed class. -/
inductive ClassItem where
  | literal (literal : Literal)
  | range (range : Range) (first last : Literal)
  | ascii (range : Range) (isNegated : Bool) (kind : AsciiClass)
  | property (range : Range) (isNegated : Bool) (property : Property)
  | shorthand (range : Range) (isNegated : Bool) (kind : Shorthand)
  | bracketed (range : Range) (isNegated : Bool) (set : ClassSet)

/-- What stands between brackets. -/
inductive ClassSet where
  | union (items : List ClassItem)
  | operation (range : Range) (operation : SetOperation) (left right : ClassSet)

end

/-- How often something is repeated; no greatest count means any number of times. -/
structure Counts where
  least : Nat
  most : Option Nat
  deriving DecidableEq, Repr

/-- A pattern as it is written. -/
inductive Expression where
  | empty
  | flags (range : Range) (flags : Flags)
  | literal (literal : Literal)
  | dot (range : Range)
  | assertion (range : Range) (assertion : Assertion)
  | property (range : Range) (isNegated : Bool) (property : Property)
  | shorthand (range : Range) (isNegated : Bool) (kind : Shorthand)
  | bracketed (range : Range) (isNegated : Bool) (set : ClassSet)
  | repetition (range : Range) (counts : Counts) (body : Expression)
  | group (range : Range) (flags : Flags) (body : Expression)
  | alternation (range : Range) (branches : List Expression)
  | concatenation (range : Range) (parts : List Expression)

namespace Expression

/-- Whether nothing of it can be repeated. -/
def isUnrepeatable : Expression → Bool
  | .empty => true
  | .flags .. => true
  | _ => false

/-- Parts one after the other; a single part stands for itself. -/
def ofParts (range : Range) : List Expression → Expression
  | [] => .empty
  | [part] => part
  | parts => .concatenation range parts

/-- Branches to choose from; a single branch stands for itself. -/
def ofBranches (range : Range) : List Expression → Expression
  | [] => .empty
  | [branch] => branch
  | branches => .alternation range branches

end Expression

end BundleFinish.Pattern
