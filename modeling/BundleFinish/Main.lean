import BundleFinish.CommandLine.Environment
import BundleFinish.CommandLine.Program
import BundleFinish.CommandLine.Reach

/-! # The command

The files that a run looks at are read from the disk, `CommandLine.run` says what comes of the run,
and what it changed is written back. Programs on the disk are known to be there, but are never
started. -/

namespace BundleFinish.Main

/-- A program that may not be started. -/
def notStarted : Program := { executable := false, execute := fun _ _ => none }

/-- Whether anybody may execute a file is not looked at: every file may be a program. -/
def fileNode (content : ByteArray) : Node := .file content.data.toList (some notStarted)

/-- What stands on the disk at a location, and where it leads to if it is a link. A link that leads
nowhere, and what cannot be read, counts as missing. -/
def nodeOnDisk? (location : Location) : IO (Option Node) := do
  let name := (← IO.currentDir) / location.path.display
  try
    match (← name.symlinkMetadata).type with
    | .dir => return some .directory
    | .file => return some (fileNode (← IO.FS.readBinFile name))
    | .symlink => return some (.link (.ofString (← IO.FS.realPath name).toString))
    | .other => return none
  catch _ => return none

/-- The locations in a directory on the disk. -/
def locationsIn (location : Location) : IO (List Location) := do
  let name := (← IO.currentDir) / location.path.display
  return (← name.readDir).toList.map fun entry => location ++ [Utf8.encode entry.fileName]

/-- The location that a path without links names. -/
def plainLocation (path : Path) : Location :=
  (Path.splitSlash path.clean.octets).filter (!Path.saysNothing ·)

/-- Read what stands at a location, and on the way to it: first below the location `above`, then
along the names that are left. With `deep`, all that is below the end of the way is read too, but
nothing behind the links there. -/
partial def readAlong (deep : Bool) (tree : FileTree) (above : Location) (names : List Bytes) :
    IO FileTree := do
  let node ←
    match tree.get? above with
    | some node => pure (some node)
    | none => nodeOnDisk? above
  match node with
  | none => return tree
  | some node =>
    let known := (tree.get? above).isSome
    let tree := if known then tree else tree.put above node
    match node, names with
    | .link target, _ => readAlong deep tree [] (plainLocation target ++ names)
    | .directory, name :: rest => readAlong deep tree (above ++ [name]) rest
    | .directory, [] =>
      if deep then
        (← locationsIn above).foldlM (fun tree location => do
          let isLink := match ← nodeOnDisk? location with
            | some (.link _) => true
            | _ => false
          readAlong (!isLink) tree location []) tree
      else return tree
    | .file .., _ => return tree

/-- Read what a path names. -/
def readPath (deep : Bool) (tree : FileTree) (path : Path) : IO FileTree :=
  readAlong deep tree [] (plainLocation path)

/-- Read the files that a command line looks at, and the environment. -/
def readWorkspace (arguments : List Bytes) : IO Workspace := do
  let directory := Path.ofString (← IO.currentDir).toString
  let environment ← IO.FS.readBinFile "/proc/self/environ"
  let tree ← readPath false .empty directory
  let start := fun tree => Workspace.start tree (plainLocation directory)
    (CommandLine.Environment.ofOctets environment.data.toList) none
  match CommandLine.Arguments.parse arguments with
  | .error _ => return start tree
  | .ok arguments =>
    let tree ← (CommandLine.settingsPaths arguments directory).foldlM (readPath false) tree
    let reach := CommandLine.Reach.ofArguments arguments (start tree)
    let tree ← reach.files.foldlM (readPath false) tree
    return start (← reach.directories.foldlM (readPath true) tree)

/-- Write to the disk what is new in a tree. -/
def writeChanges (before after : FileTree) : IO Unit :=
  after.entries.forM fun (location, node) => do
    let name := location.path.display
    match node, before.get? location with
    | .directory, none => IO.FS.createDirAll name
    | .file content _, some (.file old _) =>
      if content ≠ old then IO.FS.writeBinFile name ⟨content.toArray⟩
    | .file content _, _ => IO.FS.writeBinFile name ⟨content.toArray⟩
    | _, _ => pure ()

/-- Execute a command line on the disk. -/
def execute (arguments : List String) : IO UInt32 := do
  let arguments := arguments.map Utf8.encode
  let before ← readWorkspace arguments
  let (printed, after) := CommandLine.run arguments before
  writeChanges before.files after.files
  IO.print printed.stdout
  IO.eprint printed.stderr
  return printed.exitCode.toUInt32

end BundleFinish.Main

/-- The command. -/
def main (arguments : List String) : IO UInt32 := BundleFinish.Main.execute arguments
