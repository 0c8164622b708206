import BundleFinish.Diagnostic.Basic
import BundleFinish.Workspace

/-! # Sources of diagnostics

The source of a diagnostic is the file that it names, seen from one directory. A diagnostic whose
file cannot be read as text stays as it is. -/

namespace BundleFinish.Diagnostic

/-- Attach the source that a diagnostic names. -/
def attachSource (workspace : Workspace) (directory : Path) (diagnostic : Diagnostic) :
    Diagnostic :=
  match diagnostic.file with
  | none => diagnostic
  | some file =>
    match workspace.files.readText workspace.directory (directory.joinText file) with
    | .ok text => diagnostic.withSource text
    | .error _ => diagnostic

/-- Attach the sources that diagnostics name. -/
def attachSources (workspace : Workspace) (directory : Path) (diagnostics : List Diagnostic) :
    List Diagnostic :=
  diagnostics.map (attachSource workspace directory)

end BundleFinish.Diagnostic
