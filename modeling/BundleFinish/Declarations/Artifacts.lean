import BundleFinish.Files.Path

/-! # Output files of a source

A source has a script and a declaration file directly in the output directory, both named by the
base name of the source. -/

namespace BundleFinish.Declarations

/-- The script and the declaration file of one source. -/
structure ArtifactPair where
  script : Path
  declaration : Path
  deriving DecidableEq, Repr

namespace ArtifactPair

/-- The base name of a source as text, where the source has a file name. -/
def baseName? (source : Path) : Option String := source.fileStem.map Utf8.decodeLossy

/-- The output files of a source inside a directory; none for a path without a file name. -/
def ofSource? (directory source : Path) : Option ArtifactPair :=
  (baseName? source).map fun base =>
    { script := directory.joinText (base ++ ".js")
      declaration := directory.joinText (base ++ ".d.ts") }

/-- The name by which the script refers to the declaration file. -/
def declarationName (pair : ArtifactPair) : String :=
  (pair.declaration.fileName.map Utf8.decodeLossy).getD ""

end ArtifactPair

end BundleFinish.Declarations
