import BundleFinish.Pattern.Escape
import BundleFinish.Text.Letter

/-! # Parsing patterns

From the text of a pattern to its expression. Faults come in the order of the text: the first one is
reported. Every nested class or group takes at least one character, so the length of the pattern
bounds the depth of the recursion. -/

namespace BundleFinish.Pattern

namespace Scan

/-! ## Bracketed classes -/

/-- The name of a class of ASCII characters. -/
def asciiClass? : String → Option AsciiClass
  | "alnum" => some .alnum
  | "alpha" => some .alpha
  | "ascii" => some .ascii
  | "blank" => some .blank
  | "cntrl" => some .cntrl
  | "digit" => some .digit
  | "graph" => some .graph
  | "lower" => some .lower
  | "print" => some .print
  | "punct" => some .punct
  | "space" => some .space
  | "upper" => some .upper
  | "word" => some .word
  | "xdigit" => some .xdigit
  | _ => none

/-- A class of ASCII characters written `[:name:]` or `[:^name:]` at the front of a text: whether it
is negated, the class, and the number of characters that it takes. -/
def asciiClassAt? (text : List Char) : Option (Bool × AsciiClass × Nat) := do
  let '[' :: ':' :: body := text | none
  let (isNegated, body) := match body with
    | '^' :: rest => (true, rest)
    | rest => (false, rest)
  let name := body.takeWhile (· != ':')
  guard ([':', ']'].isPrefixOf (body.drop name.length))
  let kind ← asciiClass? (String.ofList name)
  return (isNegated, kind, name.length + (if isNegated then 5 else 4))

/-- Read a class of ASCII characters if one is next. -/
def asciiClass : Scan (Option ClassItem) := do
  let scanner : Scanner ← get
  match asciiClassAt? scanner.rest with
  | none => return none
  | some (isNegated, kind, count) => do
    let start ← here
    for _ in List.range count do
      let _ ← bump
    return some (.ascii (← rangeFrom start) isNegated kind)

/-- Something read in a class as its member. -/
def memberOf : Single → Scan ClassItem
  | .literal literal => return .literal literal
  | .property range isNegated property => return .property range isNegated property
  | .shorthand range isNegated kind => return .shorthand range isNegated kind
  | .dot range => refuse .classEscapeInvalid range
  | .assertion range _ => refuse .classEscapeInvalid range

/-- Something read in a class as the end of a range. -/
def boundaryOf : Single → Scan Literal
  | .literal literal => return literal
  | other => refuse .classRangeLiteral other.range

/-- Read a character of a class, where only the backslash is special. -/
def classSingle : Scan Single := do
  match ← peek with
  | some '\\' => escape
  | some c => do
    let range ← nextRange
    let _ ← bump
    return .literal ⟨range, c, false⟩
  | none => refuse .escapeUnexpectedEnd (← spot)

/-- Read a character or a range of a class; `opening` is at fault when the class does not end. -/
def classRange (opening : Range) : Scan ClassItem := do
  let first ← classSingle
  bumpSpace
  if ← atEnd then refuse .classUnclosed opening
  let second ← peekSecondShown
  if (← peek) ≠ some '-' ∨ second = some ']' ∨ second = some '-' then memberOf first
  else do
    if !(← bumpAndSpace) then refuse .classUnclosed opening
    let last ← classSingle
    let range := ⟨first.range.first, last.range.last⟩
    let low ← boundaryOf first
    let high ← boundaryOf last
    if high.char < low.char then refuse .classRangeInvalid range
    return .range range low high

/-- Read hyphens that stand for themselves at the start of a class. -/
def classHyphens (start : Mark) : (bound : Nat) → Scan (List ClassItem)
  | 0 => pure []
  | bound + 1 => do
    if (← peek) = some '-' then
      let item := ClassItem.literal ⟨← nextRange, '-', false⟩
      if !(← bumpAndSpace) then refuse .classUnclosed ⟨start, start⟩
      return item :: (← classHyphens start bound)
    else return []

/-- Drop the next character of a class and what is ignored behind it; the class must not end there. -/
def bumpInClass (start : Mark) : Scan Unit := do
  if !(← bumpAndSpace) then refuse .classUnclosed (← rangeFrom start)

/-- Read the sign that negates a class, if it is next. -/
def classNegation (start : Mark) : Scan Bool := do
  if (← peek) = some '^' then
    bumpInClass start
    return true
  else return false

/-- Read the members of a class that only at its start stand for themselves, the last one first. -/
def classFront (start : Mark) : Scan (List ClassItem) := do
  let hyphens ← classHyphens start ((← remaining) + 1)
  if hyphens.isEmpty ∧ (← peek) = some ']' then
    let item := ClassItem.literal ⟨← nextRange, ']', false⟩
    bumpInClass start
    return [item]
  else return hyphens.reverse

/-- Read the opening of a class: its range, whether it is negated, and the members at its start, the
last one first. -/
def classOpening : Scan (Range × Bool × List ClassItem) := do
  let start ← here
  bumpInClass start
  let isNegated ← classNegation start
  let items ← classFront start
  return (← rangeFrom start, isNegated, items)

/-- The operation that is next in a class. -/
def setOperation? : Scan (Option SetOperation) := do
  match ← peek, ← peekSecond with
  | some '&', some '&' => return some .intersection
  | some '-', some '-' => return some .difference
  | some '~', some '~' => return some .symmetricDifference
  | _, _ => return none

/-- Combine what stands before an operation, if there is any, with the members read since. -/
def combine (start : Mark) (before : Option (ClassSet × SetOperation)) (items : List ClassItem) :
    Scan ClassSet := do
  let right := ClassSet.union items.reverse
  match before with
  | none => return right
  | some (left, operation) => return .operation (← rangeFrom start) operation left right

/-- Read the members of a class up to its closing bracket, which is taken up. `nested` reads a class
inside this one; `bound` bounds the members that follow. -/
def classMembers (nested : Scan ClassItem) (opening : Range) :
    (bound : Nat) → (before : Option (ClassSet × SetOperation)) → (items : List ClassItem) →
    Scan ClassSet
  | 0, _, _ => refuse .classUnclosed opening
  | bound + 1, before, items => do
    bumpSpace
    match ← peek with
    | none => refuse .classUnclosed opening
    | some ']' => do
      let set ← combine opening.first before items
      let _ ← bump
      return set
    | some '[' => do
      match ← asciiClass with
      | some item => classMembers nested opening bound before (item :: items)
      | none => classMembers nested opening bound before ((← nested) :: items)
    | some _ => do
      match ← setOperation? with
      | some operation => do
        let set ← combine opening.first before items
        let _ ← bump
        let _ ← bump
        classMembers nested opening bound (some (set, operation)) []
      | none => classMembers nested opening bound before ((← classRange opening) :: items)

/-- Read a class whose opening bracket is next. -/
def classItem : (depth : Nat) → Scan ClassItem
  | 0 => do refuse .classUnclosed (← spot)
  | depth + 1 => do
    let (opening, isNegated, items) ← classOpening
    let set ← classMembers (classItem depth) opening (2 * (← remaining) + 2) none items
    return .bracketed (← rangeFrom opening.first) isNegated set

/-! ## Groups -/

/-- The flag that a character stands for. -/
def flag? : Char → Option Flag
  | 'i' => some .caseInsensitive
  | 'm' => some .multiLine
  | 's' => some .dotMatchesNewLine
  | 'U' => some .swapGreed
  | 'u' => some .unicode
  | 'R' => some .crlf
  | 'x' => some .ignoreWhitespace
  | _ => none

/-- An item among flags: a flag, or the sign that turns off what follows. -/
structure FlagItem where
  flag : Option Flag
  range : Range

/-- Read flags up to a colon or a closing parenthesis, which stays. -/
def flagItems : (bound : Nat) → (seen : List FlagItem) → Scan (List FlagItem)
  | 0, seen => pure seen
  | bound + 1, seen => do
    match ← peek with
    | none => refuse .flagUnexpectedEnd (← spot)
    | some c =>
      if c = ':' ∨ c = ')' then
        match seen with
        | ⟨none, range⟩ :: _ => refuse .flagDanglingNegation range
        | _ => return seen
      else do
        let range ← nextRange
        let flag ← if c = '-' then pure none
          else
            match flag? c with
            | some flag => pure (some flag)
            | none => refuse .flagUnrecognized range
        match seen.find? fun item => item.flag == flag with
        | some item =>
          refuse (if flag.isNone then .flagRepeatedNegation item.range
            else .flagDuplicate item.range) range
        | none => do
          if !(← bump) then refuse .flagUnexpectedEnd (← spot)
          flagItems bound (⟨flag, range⟩ :: seen)

/-- The switches that flag items mean: those behind the sign are turned off. -/
def flagsOf (isOn : Bool) : List FlagItem → List (Flag × Bool)
  | [] => []
  | ⟨some flag, _⟩ :: rest => (flag, isOn) :: flagsOf isOn rest
  | ⟨none, _⟩ :: rest => flagsOf false rest

/-- Whether a character may stand in the name of a group. -/
def isNameChar (isFirst : Bool) (c : Char) : Bool :=
  if isFirst then c == '_' || Text.isLetter c
  else c == '_' || c == '.' || c == '[' || c == ']' || Text.isAlphanumeric c

/-- Read the characters of the name of a group up to its closing bracket, which stays. -/
def nameChars (isFirst : Bool) : (bound : Nat) → Scan (List Char)
  | 0 => pure []
  | bound + 1 => do
    match ← peek with
    | none => refuse .groupNameUnexpectedEnd (← spot)
    | some '>' => return []
    | some c =>
      if isNameChar isFirst c then do
        if !(← bump) then refuse .groupNameUnexpectedEnd (← spot)
        return c :: (← nameChars false bound)
      else refuse .groupNameInvalid (← nextRange)

/-- Read the name of a group with its closing bracket; no two groups have the same name. -/
def groupName : Scan Unit := do
  let start ← here
  let name := String.ofList (← nameChars true ((← remaining) + 1))
  let range ← rangeFrom start
  let _ ← bump
  if name.isEmpty then refuse .groupNameEmpty ⟨start, start⟩
  let scanner : Scanner ← get
  match scanner.names.lookup name with
  | some earlier => refuse (.groupNameDuplicate earlier) range
  | none => set { scanner with names := scanner.names ++ [(name, range)] }

/-- What an opening parenthesis starts. -/
inductive Opening where
  /-- Flags for the rest of the group around it. -/
  | flags (range : Range) (flags : Flags)
  /-- A group with flags of its own; `range` is its parenthesis. -/
  | group (range : Range) (flags : Flags)

/-- Refuse a group that begins with a sign for looking around. -/
def refuseLooks (start : Mark) : (signs : List String) → Scan Unit
  | [] => pure ()
  | sign :: others => do
    if ← bumpIf sign.toList then refuse .lookAround (← rangeFrom start)
    refuseLooks start others

/-- Read the opening of a group, whose parenthesis is next. -/
def opening : Scan Opening := do
  let paren ← nextRange
  let _ ← bump
  bumpSpace
  refuseLooks paren.first ["?=", "?!", "?<=", "?<!"]
  let inner ← spot
  -- Only one of the two signs is taken up.
  let isNamed ← if ← bumpIf "?P<".toList then pure true else bumpIf "?<".toList
  if isNamed then do
    groupName
    return .group paren ⟨[]⟩
  else if ← bumpIf ['?'] then do
    if ← atEnd then refuse .groupUnclosed paren
    let items ← flagItems ((← remaining) + 1) []
    let ending ← peek
    let _ ← bump
    let flags : Flags := ⟨flagsOf true items.reverse⟩
    if ending = some ')' then
      if items.isEmpty then refuse .repetitionMissing inner
      return .flags (← rangeFrom paren.first) flags
    else return .group paren flags
  else return .group paren ⟨[]⟩

/-! ## Repetitions -/

/-- The largest repetition count. -/
def maxCount : Nat := 4294967295

/-- Read a decimal number between white space. A missing one is told apart, because it need not be a
fault. -/
def decimal : Scan (Except Fault Nat) := do
  let isBlankNext : Scan Bool := do return (← peek).any Text.isBlank
  for _ in List.range (← remaining) do
    if ← isBlankNext then
      let _ ← bump
  let start ← here
  let digits ← takeSpaced Char.isDigit ((← remaining) + 1)
  let range ← rangeFrom start
  for _ in List.range (← remaining) do
    if ← isBlankNext then
      let _ ← bumpAndSpace
  if digits = [] then return .error ⟨.repetitionCountEmpty, range⟩
  else
    match Text.boundedNumber? maxCount digits with
    | some value => return .ok value
    | none => return .error ⟨.decimalInvalid, range⟩

/-- Take up a question mark, which makes a repetition prefer less. -/
def lazyMark : Scan Unit := do
  if (← peek) = some '?' then
    let _ ← bump

/-- Take up the sign of a repetition, which stands for some counts. -/
def signCounts (counts : Counts) : Scan Counts := do
  if ← bump then lazyMark
  return counts

/-- Read counts whose brace is next. -/
def counts : Scan Counts := do
  let start ← here
  let unclosed {α : Type} : Scan α := do refuse .repetitionCountUnclosed (← rangeFrom start)
  if !(← bumpAndSpace) then unclosed
  let least ← decimal
  let required (count : Except Fault Nat) : Scan Nat := fun scanner =>
    match count with
    | .ok value => .ok (value, scanner)
    | .error fault => .error fault
  if ← atEnd then unclosed
  let counts : Counts ←
    if (← peek) = some ',' then do
      if !(← bumpAndSpace) then unclosed
      if (← peek) ≠ some '\x7d' then do
        let least ← required least
        let most ← required (← decimal)
        pure ⟨least, some most⟩
      else pure ⟨← required least, none⟩
    else do
      let exact ← required least
      pure ⟨exact, some exact⟩
  if (← peek) ≠ some '\x7d' then unclosed
  if ← bumpAndSpace then lazyMark
  if counts.most.any (· < counts.least) then
    refuse .repetitionCountInvalid (← rangeFrom start)
  return counts

/-- Repeat the last of the parts read so far, the last one first. -/
def repeatLast (parts : List (Mark × Expression)) (counts : Scan Counts) :
    Scan (List (Mark × Expression)) := do
  match parts with
  | [] => refuse .repetitionMissing (← spot)
  | (start, last) :: before =>
    if last.isUnrepeatable then refuse .repetitionMissing (← spot)
    else do
      let counts ← counts
      return (start, .repetition (← rangeFrom start) counts last) :: before

/-! ## Whole patterns -/

/-- A single character or escape as an expression. -/
def expressionOf : Single → Expression
  | .literal literal => .literal literal
  | .dot range => .dot range
  | .assertion range assertion => .assertion range assertion
  | .property range isNegated property => .property range isNegated property
  | .shorthand range isNegated kind => .shorthand range isNegated kind

/-- Set whether white space is ignored. -/
def setIgnoresSpace (isOn : Bool) : Scan Unit := fun scanner =>
  .ok ((), { scanner with ignoresSpace := isOn })

/-- Read parts and branches up to the end or a closing parenthesis, which stays. `group` reads a group
whose parenthesis is next; the branches and the parts of the current one are given last first, the
parts with their starts. -/
def branches (group : Scan Expression) (first : Mark) :
    (bound : Nat) → (done : List Expression) → (start : Mark) →
    (parts : List (Mark × Expression)) → Scan Expression
  | 0, _, _, _ => pure .empty
  | bound + 1, done, start, parts => do
    bumpSpace
    let branch : Scan Expression := do
      return .ofParts (← rangeFrom start) (parts.reverse.map Prod.snd)
    let finish : Scan Expression := do
      let branches := (← branch) :: done
      return .ofBranches (← rangeFrom first) branches.reverse
    let goOn (parts : List (Mark × Expression)) : Scan Expression :=
      branches group first bound done start parts
    let place ← here
    match ← peek with
    | none => finish
    | some ')' => finish
    | some '|' => do
      let branch ← branch
      let _ ← bump
      branches group first bound (branch :: done) (← here) []
    | some '(' => do goOn ((place, ← group) :: parts)
    | some '[' => do
      match ← classItem ((← remaining) + 1) with
      | .bracketed range isNegated set => goOn ((place, .bracketed range isNegated set) :: parts)
      | _ => goOn parts
    | some '?' => do goOn (← repeatLast parts (signCounts ⟨0, some 1⟩))
    | some '*' => do goOn (← repeatLast parts (signCounts ⟨0, none⟩))
    | some '+' => do goOn (← repeatLast parts (signCounts ⟨1, none⟩))
    | some '\x7b' => do goOn (← repeatLast parts counts)
    | some _ => do goOn ((place, expressionOf (← single)) :: parts)

/-- Read a group or flags whose parenthesis is next. White space is ignored as before behind a
group. -/
def group : (depth : Nat) → Scan Expression
  | 0 => do refuse .groupUnclosed (← spot)
  | depth + 1 => do
    match ← opening with
    | .flags range flags => do
      match flags.state? .ignoreWhitespace with
      | some isOn => setIgnoresSpace isOn
      | none => pure ()
      return .flags range flags
    | .group paren flags => do
      let outer : Scanner ← get
      setIgnoresSpace ((flags.state? .ignoreWhitespace).getD outer.ignoresSpace)
      let start ← here
      let body ← branches (group depth) start (2 * (← remaining) + 2) [] start []
      if ← atEnd then refuse .groupUnclosed paren
      setIgnoresSpace outer.ignoresSpace
      let _ ← bump
      return .group (← rangeFrom paren.first) flags body

end Scan

/-! ## Nesting -/

/-- How deep expressions may stand in one another. -/
def maxNesting : Nat := 250

mutual

/-- The first member of a class that stands too deep. -/
def ClassItem.tooDeep? (depth : Nat) : ClassItem → Option Range
  | .bracketed range _ set =>
    if maxNesting < depth + 1 then some range else set.tooDeep? range (depth + 1)
  | _ => none

/-- The first member of a set that stands too deep. -/
def ClassSet.tooDeep? (around : Range) (depth : Nat) : ClassSet → Option Range
  | .union items =>
    let depth := if items.length < 2 then depth else depth + 1
    if maxNesting < depth then some around else itemsTooDeep? depth items
  | .operation range _ left right =>
    if maxNesting < depth + 1 then some range
    else
      match left.tooDeep? around (depth + 1) with
      | some found => some found
      | none => right.tooDeep? around (depth + 1)

/-- The first of some members that stands too deep. -/
def itemsTooDeep? (depth : Nat) : List ClassItem → Option Range
  | [] => none
  | item :: others =>
    match item.tooDeep? depth with
    | some found => some found
    | none => itemsTooDeep? depth others

end

mutual

/-- The first part of an expression that stands too deep. -/
def Expression.tooDeep? (depth : Nat) : Expression → Option Range
  | .bracketed range _ set =>
    if maxNesting < depth + 1 then some range else set.tooDeep? range (depth + 1)
  | .repetition range _ body =>
    if maxNesting < depth + 1 then some range else body.tooDeep? (depth + 1)
  | .group range _ body =>
    if maxNesting < depth + 1 then some range else body.tooDeep? (depth + 1)
  | .alternation range branches =>
    if maxNesting < depth + 1 then some range else partsTooDeep? (depth + 1) branches
  | .concatenation range parts =>
    if maxNesting < depth + 1 then some range else partsTooDeep? (depth + 1) parts
  | _ => none

/-- The first of some expressions that stands too deep. -/
def partsTooDeep? (depth : Nat) : List Expression → Option Range
  | [] => none
  | part :: others =>
    match part.tooDeep? depth with
    | some found => some found
    | none => partsTooDeep? depth others

end

/-- Parse a pattern. -/
def parse (pattern : String) : Except Fault Expression :=
  let chars := pattern.toList
  let read : Scan Expression := do
    let expression ← Scan.branches (Scan.group (chars.length + 1)) .start (2 * chars.length + 2) []
      .start []
    if (← Scan.atEnd) then return expression
    else Scan.refuse .groupUnopened (← Scan.nextRange)
  match read ⟨.start, chars, false, []⟩ with
  | .error fault => .error fault
  | .ok (expression, _) =>
    match expression.tooDeep? 0 with
    | some range => .error ⟨.nestedTooDeep maxNesting, range⟩
    | none => .ok expression

end BundleFinish.Pattern
