import BundleFinish.CommandLine.Arguments
import BundleFinish.Configuration.Layers

/-! # Flags as a layer of the configuration

The flags are the highest layer. The settings file and the compiler are given relative to the
working directory of the command line. -/

namespace BundleFinish.CommandLine

open Settings

/-- The settings file of a command line. -/
def configPath (arguments : Arguments) (cwd : Path) : Path :=
  match arguments.config with
  | some path => cwd.join path
  | none => cwd.joinText Configuration.fileName

/-- A path as a value; it has to be text. -/
def pathValue (path : Path) : Except Failure Value :=
  match Utf8.decode? path.octets with
  | some text => .ok (.text text)
  | none => .error (.ofText "path contains invalid UTF-8 characters")

/-- A key and its value, where a value is given. -/
def assignment (key : List String) (value : Option (Except Failure Value)) :
    Except Failure (List (List String × Value)) :=
  match value with
  | some (.ok value) => .ok [(key, value)]
  | some (.error failure) => .error failure
  | none => .ok []

/-- What the flags assign to keys. -/
def assignments (arguments : Arguments) (cwd : Path) :
    Except Failure (List (List String × Value)) := do
  let entries := if arguments.entries = [] then none
    else some ((arguments.entries.mapM pathValue).map Value.list)
  let enabled := if arguments.noDeclarations then some (.ok (.bool false)) else none
  return (← assignment ["entry_points"] entries)
    ++ (← assignment ["out_dir"] (arguments.outDir.map pathValue))
    ++ (← assignment ["root_dir"] (arguments.rootDir.map pathValue))
    ++ (← assignment ["umd", "global_name"] (arguments.globalName.map fun name => .ok (.text name)))
    ++ (← assignment ["dts", "enabled"] enabled)
    ++ (← assignment ["dts", "tsc"] (arguments.tsc.map fun path => pathValue (cwd.join path)))

/-- The merged settings of all layers. -/
def layers (arguments : Arguments) (cwd : Path) (workspace : Workspace) :
    Except Failure Setting := do
  let below ← Configuration.layers workspace (some (configPath arguments cwd))
  return below.merge (.ofAssignments .flags (← assignments arguments cwd))

end BundleFinish.CommandLine
