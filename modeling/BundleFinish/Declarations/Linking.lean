import BundleFinish.Declarations.Artifacts
import BundleFinish.Declarations.Reference
import BundleFinish.Fault
import BundleFinish.Workspace

/-! # Linking scripts to declarations

Every source of a plan that has both output files gets a directive into its script. A source with a
half missing is passed over; a script that cannot be read or written ends the linking. -/

namespace BundleFinish.Declarations

/-- The part of the program that writes the log lines of this module. -/
def linkingLogTarget : String := "fob_postbuild::reference"

/-- Whether both output files are there. -/
def ArtifactPair.isComplete (pair : ArtifactPair) (workspace : Workspace) : Bool :=
  workspace.exists? pair.script && workspace.exists? pair.declaration

/-- Put the directive into the script of a pair. -/
def linkPair (pair : ArtifactPair) : Action Fault Unit := do
  let text ← (Action.readText pair.script).mapError (.io pair.script)
  (Action.writeText pair.script (injectReference text pair.declarationName)).mapError
    (.io pair.script)
  Action.log .debug linkingLogTarget s!"[fob-dts] linked {pair.script.display}"

/-- Link one source, and give its script where it was linked. -/
def linkSource (directory source : Path) : Action Fault (Option Path) := do
  match ArtifactPair.ofSource? directory source with
  | none => return none
  | some pair =>
    if pair.isComplete (← get) then
      linkPair pair
      return some pair.script
    else
      Action.log .debug linkingLogTarget
        s!"[fob-dts] {source.display} has no js/d.ts pair, not linking"
      return none

/-- Link the sources of a plan, and give the scripts that were linked. -/
def link (directory : Path) : List Path → Action Fault (List Path)
  | [] => return []
  | source :: plan => do
    let script ← linkSource directory source
    let others ← link directory plan
    return script.toList ++ others

end BundleFinish.Declarations
