import BundleFinish.Number.Binary

/-! # Shapes of found values

What was found where something else was expected. Messages about JSON texts and messages about
settings have different words for the same shapes. -/

namespace BundleFinish

/-- What a value looks like to somebody who expected another one. -/
inductive Shape where
  | unit
  | bool (value : Bool)
  | unsigned (value : Nat)
  | signed (value : Int)
  | real (value : Binary)
  /-- A number out of range. -/
  | infinite (negative : Bool)
  | text (value : String)
  | sequence
  | map
  deriving DecidableEq, Repr

end BundleFinish
