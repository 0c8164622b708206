import BundleFinish.Value.Entries
import BundleFinish.Value.Shape

/-! # Values without a schema

What a settings file, a variable or a command line can hold before it is known which setting it is
for. The entries of a map are kept sorted by key, one entry for each key. -/

namespace BundleFinish

/-- A value of any shape. -/
inductive Value where
  | unit
  | bool (value : Bool)
  | unsigned (value : Nat)
  | signed (value : Int)
  | real (value : Binary)
  /-- A number out of range. -/
  | infinite (negative : Bool)
  | char (value : Char)
  | text (value : String)
  | list (items : List Value)
  | map (entries : List (String × Value))
  deriving Repr

namespace Value

/-- What a value looks like; a character is taken for a text. -/
def shape : Value → Shape
  | .unit => .unit
  | .bool value => .bool value
  | .unsigned value => .unsigned value
  | .signed value => .signed value
  | .real value => .real value
  | .infinite negative => .infinite negative
  | .char value => .text (String.singleton value)
  | .text value => .text value
  | .list _ => .sequence
  | .map _ => .map

/-- The map of some entries; of two with the same key the later one stays. -/
def mapOf (entries : List (String × Value)) : Value := .map (Entries.ofList entries)

end Value

end BundleFinish
