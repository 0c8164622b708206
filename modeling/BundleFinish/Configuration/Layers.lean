import BundleFinish.Configuration.Check
import BundleFinish.Settings.Variables
import BundleFinish.Workspace

/-! # Layers of a configuration

The defaults are the lowest layer. Over them come a settings file, the variables of the environment,
and the flags of a command line. -/

namespace BundleFinish.JsonText.Read

/-- Read a map of any values. -/
def mapping : Read Value := do
  if (← toValue) = '\x7b' then value maxDepth else mismatch "a map"

end BundleFinish.JsonText.Read

namespace BundleFinish.Configuration

open Settings

/-- The settings file that is looked for where none is named. -/
def fileName : String := "fob-postbuild.json"

/-- The components of a path as they are seen from a directory. -/
def stepsFrom : (path base : List Path.Component) → List Path.Component
  | a :: path, b :: base =>
    if a = b then stepsFrom path base else (b :: base).map (fun _ => .up) ++ a :: path
  | path, base => base.map (fun _ => .up) ++ path

/-- The name under which a file is shown to somebody in a directory. -/
def shownFrom (directory path : Path) : String :=
  (Path.ofComponents (stepsFrom path.components directory.components)).display

/-- Find a settings file: an absolute path stands for itself, any other is looked for in the
directory and those above it. -/
def findFile? (workspace : Workspace) (path : Path) : Option Path :=
  if path.isAbsolute then if workspace.isFile path then some path else none
  else
    (workspace.directoryPath.ancestors.map fun directory => directory.join path).find?
      workspace.isFile

/-- The settings in a file, none where there is no such file. -/
def fileLayer (workspace : Workspace) (path : Path) : Except Failure (Option Setting) :=
  match findFile? workspace path with
  | none => .ok none
  | some found =>
    let origin := Origin.file (shownFrom workspace.directoryPath found)
    match workspace.files.readText workspace.directory found with
    | .error cause => .error ⟨.unreadable cause, [], some origin⟩
    | .ok text =>
      match JsonText.Read.run JsonText.Read.mapping text with
      | .error failure => .error ⟨.notJson failure, [], some origin⟩
      | .ok value => .ok (some (.ofValue origin value))

/-- The lowest layer. -/
def defaultLayer : Setting := .ofValue .defaults (schema.toValue default)

/-- The merged settings of the defaults, a file and the environment. Where no file is named, the
usual one is used if it is in the working directory. -/
def layers (workspace : Workspace) (path : Option Path) : Except Failure Setting := do
  let path :=
    match path with
    | some path => some path
    | none =>
      let usual := Path.ofString fileName
      if workspace.exists? usual then some usual else none
  let file ←
    match path with
    | some path => fileLayer workspace path
    | none => .ok none
  let below := match file with
    | some layer => defaultLayer.merge layer
    | none => defaultLayer
  return below.merge (ofVariables workspace.environment)

end BundleFinish.Configuration
