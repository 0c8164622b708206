import BundleFinish.Text.Shebang

/-! # References from scripts to declarations

A script names its declaration file in a directive on its first line, or on its second line when the
first one names an interpreter. A second injection adds a second directive. -/

namespace BundleFinish.Declarations

open Text

/-- The directive that names a declaration file beside the script. -/
def referenceDirective (declaration : String) : String :=
  "/// <reference types=\"./" ++ declaration ++ "\" />"

/-- Put a directive line into the characters of a script. -/
def injectChars (text : List Char) (declaration : String) : List Char :=
  shebangLine (splitShebang text).1 ++ (referenceDirective declaration).toList ++ '\n' ::
    (splitShebang text).2

/-- Put the directive for a declaration file into a script, after its interpreter line. -/
def injectReference (text declaration : String) : String :=
  String.ofList (injectChars text.toList declaration)

end BundleFinish.Declarations
