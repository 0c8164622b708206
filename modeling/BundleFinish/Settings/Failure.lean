import BundleFinish.Files.IoError
import BundleFinish.JsonText.Failure
import BundleFinish.Settings.Setting

/-! # Why settings are refused

A layer may be unreadable as a whole, or a setting may not be what its key asks for. The message
names the key as it is spelled in the layer that the setting is from. -/

namespace BundleFinish.Settings

/-- What is wrong with a setting or a layer. -/
inductive Problem where
  /-- A value of another kind. -/
  | mismatch (found : Shape) (expected : String)
  /-- A value of the right kind that is out of range. -/
  | badValue (found : Shape) (expected : String)
  /-- A list with too few items for a record. -/
  | wrongLength (found : Nat) (expected : String)
  | missingField (name : String)
  | unknownVariant (name : String) (known : List String)
  /-- A file that is no JSON. -/
  | notJson (failure : JsonText.Failure)
  /-- A file that cannot be read. -/
  | unreadable (cause : IoError)
  /-- A problem in its own words. -/
  | other (text : String)
  deriving DecidableEq, Repr

/-- A shape in the words of messages about settings. -/
def shapeWords : Shape → String
  | .unit => "unit"
  | .bool value => s!"bool {value}"
  | .unsigned value => s!"unsigned int `{value}`"
  | .signed value => s!"signed int `{value}`"
  | .real value => s!"float `{value.positional}`"
  | .infinite negative => if negative then "float `-inf`" else "float `inf`"
  | .text value => "string " ++ Text.quoted value
  | .sequence => "sequence"
  | .map => "map"

/-- The known names where an unknown one was found. -/
def knownNames (known : List String) : String :=
  "`one of " ++ ", ".intercalate (known.map JsonText.backquoted) ++ "`"

namespace Problem

/-- The words for a problem. -/
def message : Problem → String
  | .mismatch found expected => s!"invalid type: found {shapeWords found}, expected {expected}"
  | .badValue found expected => s!"invalid value {shapeWords found}, expected {expected}"
  | .wrongLength found expected => s!"invalid length {found}, expected {expected}"
  | .missingField name => s!"missing field `{name}`"
  | .unknownVariant name known =>
    s!"unknown variant: found `{name}`, expected {knownNames known}"
  | .notJson failure => failure.message
  | .unreadable cause => cause.message
  | .other text => text

end Problem

/-- What all names of variables for settings start with. -/
def variablePrefix : String := "FOB_POSTBUILD_"

namespace Origin

/-- A key as it is spelled in a layer. -/
def spell (origin : Origin) (key : List String) : String :=
  match origin with
  | .environment => ".".intercalate (key.map fun name => String.ofList (name.toList.map Char.toUpper))
  | _ => ".".intercalate ("default" :: key)

/-- The words for a layer in messages; the defaults and the flags have none. -/
def words? : Origin → Option String
  | .file name => some s!"{name} JSON file"
  | .environment => some s!"`{variablePrefix}` environment variable(s)"
  | .defaults => none
  | .flags => none

end Origin

/-- A problem, the key it is at and the layer it is from; no key for a whole layer. -/
structure Failure where
  problem : Problem
  key : List String
  origin : Option Origin
  deriving DecidableEq, Repr

namespace Failure

/-- A failure in its own words. -/
def ofText (text : String) : Failure := ⟨.other text, [], none⟩

/-- The words for a failure. -/
def message (failure : Failure) : String :=
  match failure.origin with
  | none => failure.problem.message
  | some origin =>
    failure.problem.message
      ++ (if failure.key = [] then ""
        else " for key " ++ Text.quoted (origin.spell failure.key))
      ++ (match origin.words? with
        | some words => " in " ++ words
        | none => "")

end Failure

end BundleFinish.Settings
