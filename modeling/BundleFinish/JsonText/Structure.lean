import BundleFinish.JsonText.Lexical
import BundleFinish.Value.Basic

/-! # Lists, objects and whole texts of JSON

Lists and objects are read with a reader for their items; nothing is known here of what the items
mean. A list or an object takes one level off a depth that starts at `maxDepth`. -/

namespace BundleFinish.JsonText.Read

/-- How deep lists and objects may stand in one another, less one. -/
def maxDepth : Nat := 127

/-- Read a value that is not what was asked for and say what it is. -/
def mismatch {α : Type} (expected : String) : Read α := do
  match ← peek with
  | some 'n' => do drop; word "ull".toList; fail (.mismatch .unit expected)
  | some 't' => do drop; word "rue".toList; fail (.mismatch (.bool true) expected)
  | some 'f' => do drop; word "alse".toList; fail (.mismatch (.bool false) expected)
  | some '"' => do
    let text ← string
    fail (.mismatch (.text text) expected)
  | some '[' => fail (.mismatch .sequence expected)
  | some '\x7b' => fail (.mismatch .map expected)
  | some c =>
    if c = '-' ∨ c.isDigit then do
      let found ← anyNumber
      fail (.mismatch found.shape expected)
    else failAhead .expectedValue
  | none => failAhead .expectedValue

/-- Go to the first character of a value. -/
def toValue : Read Char := do
  match ← next with
  | some c => return c
  | none => failAhead .endInValue

/-! ## Lists -/

/-- Whether an item of a list follows; a comma before it is taken up. -/
def itemFollows (first : Bool) : Read Bool := do
  match ← next with
  | none => failAhead .endInList
  | some ']' => return false
  | some c =>
    if first then return true
    else if c = ',' then do
      drop
      match ← next with
      | none => failAhead .endInValue
      | some ']' => failAhead .trailingComma
      | some _ => return true
    else failAhead .expectedListEnd

/-- Read the items of a list up to its end, which stays; at most `bound` of them follow. -/
def items {α : Type} (item : Read α) : (bound : Nat) → (first : Bool) → Read (List α)
  | 0, _ => pure []
  | bound + 1, first => do
    if ← itemFollows first then
      let value ← item
      return value :: (← items item bound false)
    else return []

/-- Take up the end of a list. -/
def listEnd : Read Unit := do
  match ← next with
  | some ']' => drop
  | some ',' => do
    drop
    if (← next) = some ']' then failAhead .trailingComma else failAhead .trailingCharacters
  | some _ => failAhead .trailingCharacters
  | none => failAhead .endInList

/-- Read a list whose bracket is next. -/
def list {α : Type} (depth : Nat) (item : Read α) : Read (List α) := do
  if depth = 0 then failAhead .tooDeep
  else do
    drop
    let values ← items item ((← remaining) + 1) true
    listEnd
    return values

/-! ## Objects -/

/-- Whether a key of an object follows; a comma before it is taken up. -/
def keyFollows (first : Bool) : Read Bool := do
  match ← next with
  | none => failAhead .endInObject
  | some '\x7d' => return false
  | some c =>
    if c = '"' ∧ first then return true
    else if c = ',' ∧ !first then do
      drop
      match ← next with
      | some '"' => return true
      | some '\x7d' => failAhead .trailingComma
      | some _ => failAhead .keyNotString
      | none => failAhead .endInValue
    else failAhead (if first then .keyNotString else .expectedObjectEnd)

/-- Take up the colon behind a key. -/
def colon : Read Unit := do
  match ← next with
  | some ':' => drop
  | some _ => failAhead .expectedColon
  | none => failAhead .endInObject

/-- Read the entries of an object up to its end, which stays. `entry` goes on from what was read so
far, with the key and in front of the colon; at most `bound` entries follow. -/
def entries {σ : Type} (entry : σ → String → Read σ) :
    (bound : Nat) → (first : Bool) → σ → Read σ
  | 0, _, read => pure read
  | bound + 1, first, read => do
    if ← keyFollows first then
      let key ← string
      let read ← entry read key
      entries entry bound false read
    else return read

/-- Go to the end of an object and take it up, if it is next. The place behind it is where an object
that lacks something is at fault. -/
def passObjectEnd : Read Unit := do
  if (← next) = some '\x7d' then drop

/-- Go to the end of a list and take it up, if it is next. -/
def passListEnd : Read Unit := do
  match ← next with
  | some ']' => drop
  | some ',' => do drop; spaces
  | _ => pure ()

/-- Take up the end of an object. -/
def objectEnd : Read Unit := do
  match ← next with
  | some '\x7d' => drop
  | some ',' => failAhead .trailingComma
  | some _ => failAhead .trailingCharacters
  | none => failAhead .endInObject

/-- Read an object whose brace is next. -/
def object {σ : Type} (depth : Nat) (start : σ) (entry : σ → String → Read σ) : Read σ := do
  if depth = 0 then failAhead .tooDeep
  else do
    drop
    let read ← entries entry ((← remaining) + 1) true start
    objectEnd
    return read

/-! ## Values of any shape -/

/-- Read a value of any shape. -/
def value : (depth : Nat) → Read Value
  | 0 => do
    match ← toValue with
    | '[' => failAhead .tooDeep
    | '\x7b' => failAhead .tooDeep
    | c => plain c
  | depth + 1 => do
    match ← toValue with
    | '[' => return .list (← list (depth + 1) (value depth))
    | '\x7b' =>
      let entries ← object (depth + 1) [] fun entries key => do
        colon
        return (key, ← value depth) :: entries
      return Value.mapOf entries.reverse
    | c => plain c
where
  /-- Read a value that holds no others. -/
  plain (c : Char) : Read Value := do
    match c with
    | 'n' => do drop; word "ull".toList; return .unit
    | 't' => do drop; word "rue".toList; return .bool true
    | 'f' => do drop; word "alse".toList; return .bool false
    | '"' => return .text (← string)
    | c =>
      if c = '-' ∨ c.isDigit then
        match ← anyNumber with
        | .unsigned value => return .unsigned value
        | .signed value => return .signed value
        | .real value => return .real value
      else failAhead .expectedValue

/-! ## Values that nobody asked for -/

/-- Where reading past a value stands. -/
inductive Skipping where
  /-- A value is next. -/
  | atValue
  /-- A value of the innermost list or object was read. -/
  | behindValue
  /-- The innermost list or object was just opened. -/
  | atStart
  deriving DecidableEq, Repr

/-- Read past a value. `opened` are the closing characters that are still to come, the innermost
first; every round takes up a character, so `bound` is enough. Depth is not limited here. -/
def skipFrom : (bound : Nat) → Skipping → (opened : List Char) → Read Unit
  | 0, _, _ => failAhead .endInValue
  | bound + 1, .atValue, opened => do
    match ← toValue with
    | '[' => do drop; skipFrom bound .atStart (']' :: opened)
    | '\x7b' => do drop; skipFrom bound .atStart ('\x7d' :: opened)
    | 'n' => do drop; word "ull".toList; skipFrom bound .behindValue opened
    | 't' => do drop; word "rue".toList; skipFrom bound .behindValue opened
    | 'f' => do drop; word "alse".toList; skipFrom bound .behindValue opened
    | '"' => do skipString; skipFrom bound .behindValue opened
    | c =>
      if c = '-' then do drop; skipNumber; skipFrom bound .behindValue opened
      else if c.isDigit then do skipNumber; skipFrom bound .behindValue opened
      else failAhead .expectedValue
  | _ + 1, .behindValue, [] => pure ()
  | bound + 1, state, closing :: outer => do
    let atNext : Read Unit := do
      if closing = '\x7d' then
        match ← next with
        | some '"' => do
          skipString
          colon
        | some _ => failAhead .keyNotString
        | none => failAhead .endInObject
      skipFrom bound .atValue (closing :: outer)
    match ← next with
    | none => failAhead (if closing = ']' then .endInList else .endInObject)
    | some c =>
      if c = closing then do
        drop
        skipFrom bound .behindValue outer
      else if state = .atStart then atNext
      else if c = ',' then do
        drop
        atNext
      else failAhead (if closing = ']' then .expectedListEnd else .expectedObjectEnd)
  | bound + 1, .atStart, [] => skipFrom bound .atValue []

/-- Read past a value of any shape. -/
def skip : Read Unit := do
  skipFrom (2 * (← remaining) + 2) .atValue []

/-! ## Whole texts -/

/-- Nothing but white space may follow. -/
def textEnd : Read Unit := do
  if (← next).isSome then failAhead .trailingCharacters

/-- Read a whole text. -/
def run {α : Type} (read : Read α) (text : String) : Except Failure α :=
  match (do let value ← read; textEnd; return value) (Cursor.start text.toList) with
  | .ok (value, _) => .ok value
  | .error failure => .error failure

end BundleFinish.JsonText.Read
