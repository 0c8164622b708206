import BundleFinish.JsonText.Structure
import BundleFinish.JsonText.Write
import BundleFinish.Schema

/-! # Reading JSON by a schema

A record is written as an object with its fields in any order, or as a list of its fields in their
own order. Fields that nobody knows are read past. A list or an object takes one level off the
depth. -/

namespace BundleFinish.JsonText.Read

/-! ## Single values -/

/-- Read a string. -/
def text (expected : String) : Read String := do
  if (← toValue) = '"' then string else mismatch expected

/-- Read a truth value. -/
def bool : Read Bool := do
  match ← toValue with
  | 't' => do drop; word "rue".toList; return true
  | 'f' => do drop; word "alse".toList; return false
  | _ => mismatch "a boolean"

/-- Read a whole number from zero to a limit. -/
def unsigned (limit : Nat) (expected : String) : Read Nat := do
  let c ← toValue
  if c = '-' ∨ c.isDigit then
    match ← anyNumber with
    | .unsigned value =>
      if value ≤ limit then return value else fail (.badValue (.unsigned value) expected)
    | .signed value => fail (.badValue (.signed value) expected)
    | .real value => fail (.mismatch (.real value) expected)
  else mismatch expected

/-- Read a value or `null`. -/
def optional {α : Type} (item : Read α) : Read (Option α) := do
  if (← next) = some 'n' then do
    drop
    word "ull".toList
    return none
  else return some (← item)

/-- Read `null`. -/
def unit : Read Unit := do
  if (← toValue) = 'n' then do
    drop
    word "ull".toList
  else mismatch "unit"

/-- Read a list of values. -/
def listOf {α : Type} (depth : Nat) (item : Read α) : Read (List α) := do
  if (← toValue) = '[' then list depth item else mismatch "a sequence"

/-- Read one of some names, as a string or as the only key of an object with the value `null`. -/
def variant {α : Type} (depth : Nat) (known : List (String × α)) : Read α := do
  let named : Read α := do
    let name ← text "variant identifier"
    match known.lookup name with
    | some value => return value
    | none => fail (.unknownVariant name (known.map Prod.fst))
  match ← next with
  | some '"' => named
  | some '\x7b' =>
    if depth = 0 then failAhead .tooDeep
    else do
      drop
      let value ← named
      colon
      unit
      match ← next with
      | some '\x7d' => do
        drop
        return value
      | some _ => fail .expectedValue
      | none => fail .endInObject
  | some _ => failAhead .expectedValue
  | none => failAhead .endInValue

/-! ## Records -/

/-- How the fields of a record are read, whatever they are. -/
structure FieldReader (α : Type) where
  /-- What is expected where there is no record. -/
  expected : String
  /-- The first field that has to be given and is not among the names read. -/
  missing? : (read : List String) → Option String
  /-- Read the value of a named field, behind the name. -/
  named? : (name : String) → α → Option (Read α)
  /-- Read the items of a list as fields, up to its end. -/
  items : α → Read α

/-- Read an entry of an object as a field that was not read before. -/
def recordEntry {α : Type} (fields : FieldReader α) (state : List String × α) (key : String) :
    Read (List String × α) := do
  match fields.named? key state.2 with
  | none => do
    colon
    skip
    return state
  | some read =>
    if state.1.contains key then do
      passObjectEnd
      fail (.duplicateField key)
    else do
      colon
      return (key :: state.1, ← read)

/-- Read a record. -/
def record {α : Type} (fields : FieldReader α) (start : α) (depth : Nat) : Read α := do
  match ← toValue with
  | '[' =>
    if depth = 0 then failAhead .tooDeep
    else do
      drop
      let value ← fields.items start
      listEnd
      return value
  | '\x7b' =>
    if depth = 0 then failAhead .tooDeep
    else do
      drop
      let (read, value) ← entries (recordEntry fields) ((← remaining) + 1) true ([], start)
      match fields.missing? read with
      | some name => do
        passObjectEnd
        fail (.missingField name)
      | none => do
        objectEnd
        return value
  | _ => mismatch fields.expected

/-- Read the next item of a list as a field, if there is one; `count` fields were read before. -/
def recordItem {α : Type} (tooShort : Cause) (need : Need) (count : Nat) (value : α)
    (read : Read α) (others : α → Read α) : Read α := do
  if ← itemFollows (count == 0) then others (← read)
  else if need = .never then return value
  else do
    passListEnd
    fail tooShort

end BundleFinish.JsonText.Read

/-! ## Schemas -/

namespace BundleFinish

open JsonText

mutual

/-- Read a value of a schema at some depth. -/
def Schema.read {α : Type} : Schema α → (depth : Nat) → Read α
  | .text expected, _ => Read.text expected
  | .path, _ => do return Path.ofString (← Read.text "path string")
  | .bool, _ => Read.bool
  | .natural limit expected, _ => Read.unsigned limit expected
  | .optional item, depth => Read.optional (item.read depth)
  | .list item, depth => Read.listOf depth (item.read (depth - 1))
  | .variant _ known _, depth => Read.variant depth known
  | .record title start fields, depth =>
    Read.record
      { expected := s!"struct {title}"
        missing? := fields.missing?
        named? := fields.readNamed? (depth - 1)
        items := fields.readItems
          (fun count => .wrongLength count s!"struct {title} with {fields.countWords}")
          (depth - 1) 0 }
      start depth

/-- Read the value of a named field, behind the name. -/
def Fields.readNamed? {α : Type} : Fields α → (depth : Nat) → (name : String) → α →
    Option (Read α)
  | .nil, _, _, _ => none
  | .cons known _ item _ set _ rest, depth, name, value =>
    if name = known then some do return set value (← item.read depth)
    else rest.readNamed? depth name value

/-- Read the items of a list as fields; `count` fields were read before. -/
def Fields.readItems {α : Type} : Fields α → (tooShort : Nat → Cause) → (depth count : Nat) → α →
    Read α
  | .nil, _, _, _, value => pure value
  | .cons _ need item _ set _ rest, tooShort, depth, count, value =>
    Read.recordItem (tooShort count) need count value
      (do return set value (← item.read depth))
      (rest.readItems tooShort depth (count + 1))

end

/-- Read a whole text. -/
def Schema.ofJson {α : Type} (schema : Schema α) (text : String) : Except Failure α :=
  Read.run (schema.read Read.maxDepth) text

mutual

/-- Write a value of a schema. -/
def Schema.toJson {α : Type} : Schema α → α → String
  | .text _, value => Write.string value
  | .path, value => Write.string value.display
  | .bool, value => if value then "true" else "false"
  | .natural _ _, value => toString value
  | .optional _, none => "null"
  | .optional item, some value => item.toJson value
  | .list item, values => Write.list (values.map fun value => item.toJson value)
  | .variant _ _ name, value => Write.string (name value)
  | .record _ _ fields, value => Write.object (fields.toJson value)

/-- Write the fields of a record, in order. -/
def Fields.toJson {α : Type} : Fields α → α → List (String × String)
  | .nil, _ => []
  | .cons name _ item get _ isOmitted rest, value =>
    if isOmitted (get value) then rest.toJson value
    else (name, item.toJson (get value)) :: rest.toJson value

end

end BundleFinish
