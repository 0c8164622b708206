import BundleFinish.Text.LineBreakClass

/-! # Where lines may be broken

The rules of the Unicode line breaking algorithm for two neighbouring characters. A mark belongs to
the character before it; spaces are passed over by some rules, so the state keeps the last character
that is no space. -/

namespace BundleFinish.Text

/-- What the rules have to know of the text before a character. -/
structure LineBreakState where
  /-- The class of the last character that is no space. -/
  last : LineBreakClass
  /-- The class before the last one, where no space is between them. -/
  beforeLast : Option LineBreakClass
  /-- Whether spaces follow the last character. -/
  spaced : Bool
  /-- Whether the text ends with a zero-width joiner. -/
  joined : Bool
  /-- Whether the last character is the first of a pair of regional indicators. -/
  pairOpen : Bool
  /-- Whether the last character is one that is kept free for pictographs. -/
  pictograph : Bool
  deriving Repr

namespace LineBreakClass

/-- Letters. -/
def isLetter : LineBreakClass → Bool
  | .alphabetic | .hebrewLetter => true
  | _ => false

/-- Ideographs and emoji. -/
def isIdeographic : LineBreakClass → Bool
  | .ideographic | .emojiBase | .emojiModifier => true
  | _ => false

/-- Parts of Korean syllables. -/
def isHangul : LineBreakClass → Bool
  | .hangulLeading | .hangulVowel | .hangulTrailing | .hangulLv | .hangulLvt => true
  | _ => false

/-- Characters after which a line always ends. -/
def isHardBreak : LineBreakClass → Bool
  | .mandatory | .carriageReturn | .lineFeed | .nextLine => true
  | _ => false

/-- Opening brackets. -/
def isOpening : LineBreakClass → Bool
  | .opening | .wideOpening => true
  | _ => false

/-- Marks that attach to the character before them. -/
def attaches : LineBreakClass → Bool
  | .combining | .joiner => true
  | _ => false

/-- Pairs of classes that stay together inside numbers. -/
def staysInNumber : LineBreakClass → LineBreakClass → Bool
  | .closing, .postfixNumeric | .closingParenthesis, .postfixNumeric => true
  | .closing, .prefixNumeric | .closingParenthesis, .prefixNumeric => true
  | .numeric, .postfixNumeric | .numeric, .prefixNumeric => true
  | .postfixNumeric, .opening | .postfixNumeric, .wideOpening | .postfixNumeric, .numeric => true
  | .prefixNumeric, .opening | .prefixNumeric, .wideOpening | .prefixNumeric, .numeric => true
  | .hyphen, .numeric | .infixSeparator, .numeric | .numeric, .numeric | .slash, .numeric => true
  | _, _ => false

/-- Pairs of classes that stay together inside Korean syllables. -/
def staysInSyllable : LineBreakClass → LineBreakClass → Bool
  | .hangulLeading, .hangulLeading | .hangulLeading, .hangulVowel => true
  | .hangulLeading, .hangulLv | .hangulLeading, .hangulLvt => true
  | .hangulVowel, .hangulVowel | .hangulVowel, .hangulTrailing => true
  | .hangulLv, .hangulVowel | .hangulLv, .hangulTrailing => true
  | .hangulTrailing, .hangulTrailing | .hangulLvt, .hangulTrailing => true
  | _, _ => false

/-- Pairs of classes without a space between them that stay together; the last rules of all. -/
def staysTogether (last next : LineBreakClass) : Bool :=
  next == .inseparable
    || (last.isLetter && next == .numeric) || (last == .numeric && next.isLetter)
    || (last == .prefixNumeric && next.isIdeographic)
    || (last.isIdeographic && next == .postfixNumeric)
    || ((last == .prefixNumeric || last == .postfixNumeric) && next.isLetter)
    || (last.isLetter && (next == .prefixNumeric || next == .postfixNumeric))
    || staysInNumber last next
    || staysInSyllable last next
    || (last.isHangul && next == .postfixNumeric) || (last == .prefixNumeric && next.isHangul)
    || (last.isLetter && next.isLetter)
    || (last == .infixSeparator && next.isLetter)
    || ((last.isLetter || last == .numeric) && next == .opening)
    || (last == .closingParenthesis && (next.isLetter || next == .numeric))
    || (last == .emojiBase && next == .emojiModifier)

end LineBreakClass

namespace LineBreakState

/-- Whether a mark would attach to the last character. -/
def takesMarks (state : LineBreakState) : Bool :=
  !state.spaced && !state.last.isHardBreak && state.last != .zeroWidthSpace

/-- Whether a line may be broken in front of a character of a class. -/
def breaksBefore (state : LineBreakState) (next : LineBreakClass) : Bool :=
  let last := state.last
  if last.isHardBreak && !state.spaced then !(last == .carriageReturn && next == .lineFeed)
  else if next.isHardBreak || next == .space || next == .zeroWidthSpace then false
  else if last == .zeroWidthSpace then !state.joined
  else if state.joined then false
  else if next.attaches && state.takesMarks then false
  else
    let next := if next.attaches then .alphabetic else next
    if next == .wordJoiner || (last == .wordJoiner && !state.spaced) then false
    else if last == .glue && !state.spaced then false
    else if next == .glue && !state.spaced && last != .breakAfter && last != .hyphen then false
    else if next == .closing || next == .closingParenthesis || next == .exclamation
        || next == .infixSeparator || next == .slash then false
    else if last.isOpening then false
    else if last == .quotation && next.isOpening then false
    else if (last == .closing || last == .closingParenthesis) && next == .nonStarter then false
    else if last == .breakBoth && next == .breakBoth then false
    else if state.spaced then true
    else if next == .quotation || last == .quotation then false
    else if next == .contingent || last == .contingent then true
    else if next == .breakAfter || next == .hyphen || next == .nonStarter
        || last == .breakBefore then false
    else if (last == .hyphen || last == .breakAfter) && state.beforeLast == some .hebrewLetter then
      false
    else if last == .slash && next == .hebrewLetter then false
    else if LineBreakClass.staysTogether last next then false
    else if last == .regionalIndicator && next == .regionalIndicator then !state.pairOpen
    else if state.pictograph && next == .emojiModifier then false
    else true

/-- The state behind the first character of a text. -/
def first (c : Char) : LineBreakState :=
  let found := LineBreakClass.ofChar c
  { last := if found == .space then .wordJoiner else if found.attaches then .alphabetic else found
    beforeLast := none
    spaced := found == .space
    joined := found == .joiner
    pairOpen := found == .regionalIndicator
    pictograph := futurePictographRanges.holdsChar c }

/-- The state behind one more character. -/
def next (state : LineBreakState) (c : Char) : LineBreakState :=
  let found := LineBreakClass.ofChar c
  if found == .space then { state with spaced := true, joined := false, pairOpen := false }
  else if found.attaches && state.takesMarks then { state with joined := found == .joiner }
  else
    { last := if found.attaches then .alphabetic else found
      beforeLast := if state.spaced then none else some state.last
      spaced := false
      joined := found == .joiner
      pairOpen := found == .regionalIndicator &&
        !(state.last == .regionalIndicator && !state.spaced && state.pairOpen)
      pictograph := futurePictographRanges.holdsChar c }

end LineBreakState

/-- For every character behind the first one, whether a line may be broken in front of it. -/
def lineBreaksFrom (state : LineBreakState) : List Char → List Bool
  | [] => []
  | c :: rest => state.breaksBefore (.ofChar c) :: lineBreaksFrom (state.next c) rest

/-- For every character, whether a line may be broken in front of it; never in front of the first. -/
def lineBreaks : List Char → List Bool
  | [] => []
  | c :: rest => false :: lineBreaksFrom (.first c) rest

end BundleFinish.Text
