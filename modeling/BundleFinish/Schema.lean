import BundleFinish.Files.Path
import BundleFinish.Value.Basic

/-! # Schemas

A schema says how the values of a type stand in a JSON text and in settings: as a text, a number, a
list, or a record of named fields. Reading and writing in each format are defined on schemas, so a
type is described once. A record is read into a start value, which stands for all fields that are
left out. -/

namespace BundleFinish

/-- When a field of a record has to be given. -/
inductive Need where
  | always
  /-- It may be left out of an object, but not of a list of fields. -/
  | inList
  | never
  deriving DecidableEq, Repr

mutual

/-- The written form of a type. -/
inductive Schema : Type → Type 1 where
  /-- A text, with the words for what it is. -/
  | text (expected : String) : Schema String
  | path : Schema Path
  | bool : Schema Bool
  /-- A whole number from zero to a limit, with the words for what it is. -/
  | natural (limit : Nat) (expected : String) : Schema Nat
  /-- A value or nothing. -/
  | optional {α : Type} (item : Schema α) : Schema (Option α)
  | list {α : Type} (item : Schema α) : Schema (List α)
  /-- One of some names. -/
  | variant {α : Type} (title : String) (known : List (String × α)) (name : α → String) :
      Schema α
  | record {α : Type} (title : String) (start : α) (fields : Fields α) : Schema α

/-- The fields of a record, in order. -/
inductive Fields : Type → Type 1 where
  | nil {α : Type} : Fields α
  | cons {α β : Type} (name : String) (need : Need) (item : Schema β) (get : α → β)
      (set : α → β → α) (isOmitted : β → Bool) (rest : Fields α) : Fields α

end

namespace Fields

/-- A field that is always written. -/
def field {α β : Type} (name : String) (need : Need) (item : Schema β) (get : α → β)
    (set : α → β → α) (rest : Fields α) : Fields α :=
  .cons name need item get set (fun _ => false) rest

/-- A field that is written only where it holds a value. -/
def optionalField {α β : Type} (name : String) (item : Schema β) (get : α → Option β)
    (set : α → Option β → α) (rest : Fields α) : Fields α :=
  .cons name .never (.optional item) get set Option.isNone rest

/-- The number of fields. -/
def length {α : Type} : Fields α → Nat
  | .nil => 0
  | .cons _ _ _ _ _ _ rest => rest.length + 1

/-- The number of fields in words. -/
def countWords {α : Type} (fields : Fields α) : String :=
  s!"{fields.length} " ++ if fields.length = 1 then "element" else "elements"

/-- The first field that has to be given and is not among the names read. -/
def missing? {α : Type} (read : List String) : Fields α → Option String
  | .nil => none
  | .cons name need _ _ _ _ rest =>
    if need = .always ∧ !read.contains name then some name else rest.missing? read

end Fields

/-! ## Values of a schema -/

mutual

/-- A value in the form that needs no schema. -/
def Schema.toValue {α : Type} : Schema α → α → Value
  | .text _, value => .text value
  | .path, value => .text value.display
  | .bool, value => .bool value
  | .natural _ _, value => .unsigned value
  | .optional _, none => .unit
  | .optional item, some value => item.toValue value
  | .list item, values => .list (values.map fun value => item.toValue value)
  | .variant _ _ name, value => .text (name value)
  | .record _ _ fields, value => Value.mapOf (fields.toEntries value)

/-- The fields of a record in the form that needs no schema, in their order. -/
def Fields.toEntries {α : Type} : Fields α → α → List (String × Value)
  | .nil, _ => []
  | .cons name _ item get _ isOmitted rest, value =>
    if isOmitted (get value) then rest.toEntries value
    else (name, item.toValue (get value)) :: rest.toEntries value

end

end BundleFinish
