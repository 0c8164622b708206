import BundleFinish.Build.Stage
import BundleFinish.Umd.Wrapper

/-! # Wrapping a directory

The stage that wraps the scripts directly in the output directory, in the order of their paths. It
does nothing in a build with errors; a script that cannot be read or written ends it. -/

namespace BundleFinish.Umd

open Build (Context Work)

/-- The name of the stage. -/
def stageName : String := "fob-umd"

/-- The part of the program that writes the log lines of this module. -/
def logTarget : String := "fob_postbuild::umd"

/-- Whether an entry of a directory is to be wrapped: a regular file, no link to one, whose name is
that of a script. -/
def isScript (entry : Bytes × Node) : Bool :=
  match entry.2 with
  | .file .. => isWrappable ⟨entry.1⟩
  | .directory | .link _ => false

/-- The scripts directly in a directory, in the order of their paths. -/
def scripts (workspace : Workspace) (directory : Path) : Except IoError (List Path) :=
  (workspace.files.list workspace.directory directory).map fun entries =>
    ((entries.filter isScript).map fun entry => directory.join ⟨entry.1⟩).mergeSort Path.le

/-- Wrap one script. -/
def wrapScript (globalName : String) (script : Path) : Action Fault Unit := do
  let text ← (Action.readText script).mapError (.io script)
  (Action.writeText script (wrap text globalName)).mapError (.io script)
  Action.log .debug logTarget s!"[fob-umd] wrapped {script.display}"

/-- Wrap scripts in order, up to the first that cannot be wrapped. -/
def wrapScripts (globalName : String) : List Path → Action Fault Unit
  | [] => return ()
  | script :: others => do
    wrapScript globalName script
    wrapScripts globalName others

/-- Wrap the scripts directly in a directory, and give them. -/
def wrapDirectory (globalName : String) (directory : Path) : Action Fault (List Path) := do
  match scripts (← get) directory with
  | .error cause => throw (.io directory cause)
  | .ok found =>
    wrapScripts globalName found
    return found

/-- What the stage does in a context. -/
def run (globalName : String) (context : Context) : Work Unit := do
  if ← Work.hasErrors then
    Work.log .debug logTarget "[fob-umd] build has errors, skipping UMD wrapping"
  else
    let directory := context.options.resolvedOutDir (← Work.directoryPath)
    let wrapped ← Work.onWorkspace (wrapDirectory globalName directory)
    Work.log .info logTarget s!"[fob-umd] wrapped {wrapped.length} file(s) as {globalName}"

/-- The stage that wraps scripts for a global name. -/
def stage (globalName : String) : Build.Stage := ⟨stageName, run globalName⟩

end BundleFinish.Umd
