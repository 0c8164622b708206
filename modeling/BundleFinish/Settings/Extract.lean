import BundleFinish.Schema
import BundleFinish.Settings.Failure

/-! # Values out of settings

A value is taken out of merged settings by a schema. A record is a group of settings or a list of
its fields in order. Groups are visited by name, and the first setting that does not fit is the
failure. Settings that nobody knows and items beyond the last field are passed over. -/

namespace BundleFinish.Settings

/-- Take a value out of the setting at a key. -/
abbrev Extract (α : Type) := (key : List String) → Setting → Except Failure α

namespace Extract

/-- Refuse a setting. -/
def refuse {α : Type} (problem : Problem) : Extract α := fun key setting =>
  .error ⟨problem, key, some setting.origin⟩

/-- Refuse a setting because of what it looks like. -/
def mismatch {α : Type} (expected : String) : Extract α := fun key setting =>
  refuse (.mismatch setting.shape expected) key setting

/-- Take out a text; a character is one, too. -/
def text (expected : String) : Extract String := fun key setting =>
  match setting with
  | .leaf _ (.text value) => .ok value
  | .leaf _ (.char value) => .ok (String.singleton value)
  | _ => mismatch expected key setting

/-- Take out a truth value. -/
def bool : Extract Bool := fun key setting =>
  match setting with
  | .leaf _ (.bool value) => .ok value
  | _ => mismatch "a boolean" key setting

/-- Take out a whole number from zero to a limit. -/
def natural (limit : Nat) (expected : String) : Extract Nat := fun key setting =>
  match setting with
  | .leaf _ (.unsigned value) =>
    if value ≤ limit then .ok value else refuse (.badValue setting.shape expected) key setting
  | .leaf _ (.signed value) =>
    if 0 ≤ value ∧ value ≤ limit then .ok value.toNat
    else refuse (.badValue setting.shape expected) key setting
  | _ => mismatch expected key setting

/-- Take out a value or nothing. -/
def optional {α : Type} (item : Extract α) : Extract (Option α) := fun key setting =>
  match setting with
  | .leaf _ .unit => .ok none
  | _ => do return some (← item key setting)

/-- Take out the items of a list, of which the first has a number. -/
def items {α : Type} (item : Extract α) (origin : Origin) (key : List String) :
    (number : Nat) → List Value → Except Failure (List α)
  | _, [] => .ok []
  | number, value :: rest => do
    let first ← item (key ++ [toString number]) (.ofValue origin value)
    return first :: (← items item origin key (number + 1) rest)

/-- Take out a list. -/
def list {α : Type} (item : Extract α) : Extract (List α) := fun key setting =>
  match setting with
  | .leaf origin (.list values) => items item origin key 0 values
  | _ => mismatch "a sequence" key setting

/-- Take out one of some names, which stands as a text or as the first name in a group, with
nothing under it. -/
def variant {α : Type} (title : String) (known : List (String × α)) : Extract α :=
  fun key setting =>
  let named := fun (name : String) (key : List String) (setting : Setting) =>
    match known.lookup name with
    | some value => .ok value
    | none => refuse (.unknownVariant name (known.map Prod.fst)) key setting
  match setting with
  | .leaf _ (.text name) => named name key setting
  | .group _ [] => mismatch "enum" key setting
  | .group _ ((name, content) :: _) => do
    let value ← named name (key ++ [name]) content
    match content with
    | .leaf _ .unit => return value
    | _ => mismatch "unit" (key ++ [name]) content
  | _ => mismatch s!"enum {title}" key setting

/-- Take fields out of the entries of a group, by the names that are known. -/
def fields {α : Type} (field? : String → α → Option (Extract α)) (key : List String) :
    List (String × Setting) → α → Except Failure α
  | [], value => .ok value
  | (name, setting) :: rest, value =>
    match field? name value with
    | none => fields field? key rest value
    | some field => do
      let value ← field (key ++ [name]) setting
      fields field? key rest value

end Extract

end BundleFinish.Settings

/-! ## Schemas -/

namespace BundleFinish

open Settings

mutual

/-- Take a value of a schema out of the setting at a key. -/
def Schema.extract {α : Type} : Schema α → Extract α
  | .text expected => Extract.text expected
  | .path => fun key setting => do return Path.ofString (← Extract.text "path string" key setting)
  | .bool => Extract.bool
  | .natural limit expected => Extract.natural limit expected
  | .optional item => Extract.optional item.extract
  | .list item => Extract.list item.extract
  | .variant title known _ => Extract.variant title known
  | .record title start knownFields => fun key setting =>
    match setting with
    | .group _ entries => do
      let value ← Extract.fields knownFields.extractField? key entries start
      match knownFields.missing? (entries.map Prod.fst) with
      | some name => Extract.refuse (.missingField name) key setting
      | none => return value
    | .leaf origin (.list values) =>
      knownFields.extractItems
        (fun count => .wrongLength count s!"struct {title} with {knownFields.countWords}")
        origin key 0 values start
    | _ => Extract.mismatch s!"struct {title}" key setting

/-- How the value of a named field is taken out. -/
def Fields.extractField? {α : Type} : Fields α → (name : String) → α → Option (Extract α)
  | .nil, _, _ => none
  | .cons known _ item _ set _ rest, name, value =>
    if name = known then some fun key setting => do return set value (← item.extract key setting)
    else rest.extractField? name value

/-- Take fields in order out of the items of a list, of which the first has a number. -/
def Fields.extractItems {α : Type} : Fields α → (tooShort : Nat → Problem) → (origin : Origin) →
    (key : List String) → (number : Nat) → List Value → α → Except Failure α
  | .nil, _, _, _, _, _, value => .ok value
  | .cons _ need _ _ _ _ rest, tooShort, origin, key, number, [], value =>
    if need = .never then rest.extractItems tooShort origin key number [] value
    else .error ⟨tooShort number, key, some origin⟩
  | .cons _ _ item _ set _ rest, tooShort, origin, key, number, found :: others, value => do
    let field ← item.extract (key ++ [toString number]) (.ofValue origin found)
    rest.extractItems tooShort origin key (number + 1) others (set value field)

end

end BundleFinish
