import BundleFinish.Text.Letter

/-! # Names of global variables

The name under which a wrapped module is reachable without a module loader has to be a plain
identifier. -/

namespace BundleFinish.Umd

/-- Why a text is no name of a global variable. -/
inductive GlobalNameError where
  | empty
  /-- The first character starts no identifier. -/
  | badStart (name : String)
  /-- A later character belongs to no identifier. -/
  | badPart (name : String)
  deriving DecidableEq, Repr

/-- The words for a rejected name. -/
def GlobalNameError.message : GlobalNameError → String
  | .empty => "UMD global name cannot be empty"
  | .badStart name =>
    s!"UMD global name must start with a letter, underscore, or dollar sign: '{name}'"
  | .badPart name =>
    "UMD global name can only contain letters, numbers, underscores, or dollar signs: "
      ++ s!"'{name}'"

/-- Accept the names that are plain identifiers. -/
def checkGlobalName (name : String) : Except GlobalNameError Unit :=
  match name.toList with
  | [] => .error .empty
  | first :: others =>
    if !Text.isIdentifierStart first then .error (.badStart name)
    else if others.all Text.isIdentifierPart then .ok ()
    else .error (.badPart name)

end BundleFinish.Umd
