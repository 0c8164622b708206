import BundleFinish.JsonText.Failure
import BundleFinish.Value.Basic

/-! # Names in values that were read already

A name out of a fixed list stands in a value as a text, or as the only key of a map with an empty
entry. -/

namespace BundleFinish.JsonText

/-- The variant that a value names. -/
def variantOf {α : Type} (known : List (String × α)) (value : Value) : Except Cause α :=
  let named := fun (name : String) =>
    match known.lookup name with
    | some found => .ok found
    | none => .error (.unknownVariant name (known.map Prod.fst))
  match value with
  | .text name => named name
  | .map [(name, content)] => do
    let found ← named name
    match content with
    | .unit => return found
    | other => throw (.mismatch other.shape "unit")
  | .map _ => .error (.badValue .map "map with a single key")
  | other => .error (.mismatch other.shape "string or map")

end BundleFinish.JsonText
