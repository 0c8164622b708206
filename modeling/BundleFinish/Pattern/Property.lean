import BundleFinish.Pattern.CharSet

/-! # Properties of characters by name

A property is named in any case and with any separators: a general category, a script, or a property
that a character has or has not. With a value it is `General_Category`, `Script` or
`Script_Extensions`. -/

namespace BundleFinish.Pattern

/-- A name without separators, in small letters, and without `is` at its front. -/
def normalName (name : String) : String :=
  let chars := name.toList
  let (stripped, hadIs) := match chars with
    | a :: b :: rest =>
      if a.toLower = 'i' ∧ b.toLower = 's' then (rest, true) else (chars, false)
    | _ => (chars, false)
  let kept := (stripped.filter fun c => c.toNat < 128 && c != ' ' && c != '_' && c != '-').map
    Char.toLower
  if hadIs ∧ kept = ['c'] then "isc" else String.ofList kept

/-- Why a property is not known. -/
inductive UnknownProperty where
  | name
  | value
  deriving DecidableEq, Repr

/-- The characters with a property that stands alone. -/
def plainProperty (name : String) : Except UnknownProperty CharSet :=
  let name := normalName name
  let known := if name = "sc" ∨ name = "lc" ∨ name = "cf" then none
    else CharSet.inTable? Tables.properties name
  match known, CharSet.category? name, CharSet.inTable? Tables.scripts name with
  | some set, _, _ => .ok set
  | none, some set, _ => .ok set
  | none, none, some set => .ok set
  | none, none, none => .error .name

/-- The characters with a value of a property. -/
def valuedProperty (name value : String) : Except UnknownProperty CharSet :=
  let orUnknown := fun (found : Option CharSet) =>
    match found with
    | some set => Except.ok set
    | none => .error .value
  let value := normalName value
  match normalName name with
  | "gc" | "generalcategory" => orUnknown (CharSet.category? value)
  | "sc" | "script" => orUnknown (CharSet.inTable? Tables.scripts value)
  | "scx" | "scriptextensions" => orUnknown (CharSet.inTable? Tables.scriptExtensions value)
  | _ => .error .name

/-- The characters with a property. -/
def Property.set : Property → Except UnknownProperty CharSet
  | .letter c => plainProperty (String.ofList [c])
  | .named name => plainProperty name
  | .valued name value differs => do
    let set ← valuedProperty name value
    return if differs then .complement set else set

end BundleFinish.Pattern
