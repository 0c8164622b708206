import BundleFinish.Workspace

/-! # Running programs

A program is started in a directory, by a path from there or by a bare name. Where a bare name leads
is up to the search path of the process: to the program that looks up others, which may stand outside
of the file tree, or to a place in the tree. A run may be limited in time; of one that does not end
in time only the files stay that it has written by then. -/

namespace BundleFinish

namespace Workspace

/-- The bare name of the program that looks up others. -/
def finderName : String := "which"

/-- The program that stands at a place, with that place. -/
def programStandingAt (workspace : Workspace) (place : Location) :
    Except IoError (Option Location × Program) :=
  match workspace.files.get? place with
  | some (.file _ (some program)) =>
    if program.executable then .ok (some place, program) else .error .permissionDenied
  | _ => .error .permissionDenied

/-- The program outside of the file tree that a bare name leads to. -/
def knownProgram? (workspace : Workspace) (name : Path) : Option Program :=
  if name = .ofString finderName then workspace.finder else none

/-- The place that a bare name leads to by the search path. Whatever directories that holds, no name
at all leads nowhere, and dots lead to a directory. -/
def searched (workspace : Workspace) (directory : Location) (name : Path) :
    Except IoError Location :=
  if name.octets = [] then .error .notFound
  else if name.octets = [Path.dot] ∨ name.octets = [Path.dot, Path.dot] then
    .error .permissionDenied
  else if FileTree.maxNameLength < name.octets.length then .error .nameTooLong
  else workspace.search workspace.files directory name

/-- The program that a path or a bare name leads to, for a process in a directory, and its place in
the file tree. -/
def programAt (workspace : Workspace) (directory : Location) (name : Path) :
    Except IoError (Option Location × Program) :=
  if name.octets.contains Path.slash then
    match workspace.files.find directory name with
    | .ok (place, _) => workspace.programStandingAt place
    | .error cause => .error cause
  else
    match workspace.knownProgram? name with
    | some program => if program.executable then .ok (none, program) else .error .permissionDenied
    | none =>
      match workspace.searched directory name with
      | .ok place => workspace.programStandingAt place
      | .error cause => .error cause

/-- Names that are handed to a process hold no octet zero. -/
def zeroOctetInCall : IoError := .other "nul byte found in provided data"

/-- The directory that a process is to work in. -/
def directoryAt (workspace : Workspace) (path : Path) : Except IoError Location :=
  match workspace.files.find workspace.directory path with
  | .ok (place, .directory) => .ok place
  | .ok _ => .error .notDirectory
  | .error cause => .error cause

/-- What is started for a program and a directory: the program, its place, and the place of the
directory. -/
def startable (workspace : Workspace) (program directory : Path) (arguments : List String) :
    Except IoError (Option Location × Program × Location) := do
  if program.octets.contains 0 ∨ directory.octets.contains 0
      ∨ arguments.any (·.toList.contains '\x00') then
    throw zeroOctetInCall
  let below ← workspace.directoryAt directory
  let (place, program) ← workspace.programAt below program
  return (place, program, below)

/-- What is started for a program in the working directory, which may have been removed. -/
def startableHere (workspace : Workspace) (program : Path) (arguments : List String) :
    Except IoError (Option Location × Program) :=
  if program.octets.contains 0 ∨ arguments.any (·.toList.contains '\x00') then
    .error zeroOctetInCall
  else workspace.programAt workspace.directory program

/-- The content of a file, as a process finds it. -/
def contentFrom (workspace : Workspace) (directory : Location) (path : Path) : Option Bytes :=
  (workspace.files.read directory path).toOption

/-- Take the files that a process in a directory has written. -/
def afterWrites (workspace : Workspace) (directory : Location) (writes : List (Path × Bytes)) :
    Workspace :=
  { workspace with
    files := writes.foldl
      (fun files (path, content) => files.writeDeep directory path content) workspace.files }

/-- Take the effects of a run. -/
def afterRun (workspace : Workspace) (run : Run) (directory : Location) (execution : Execution) :
    Workspace :=
  { workspace.afterWrites directory execution.writes with runs := workspace.runs ++ [run] }

end Workspace

namespace Action

/-- Run a program in a directory, for some seconds at most. None stands for a run that is cut off. -/
def execute (limit : Nat) (program directory : Path) (arguments : List String) :
    Action IoError (Option Execution) := do
  let workspace ← get
  match workspace.startable program directory arguments with
  | .error cause => throw cause
  | .ok (place, program, below) =>
    let call : Call := ⟨below.path, arguments⟩
    let content := workspace.contentFrom below
    -- A limit of no seconds is over before the program has come to its end.
    match if limit = 0 then none else program.execute call content with
    | none =>
      set (workspace.afterWrites below (program.interrupted call content))
      return none
    | some execution =>
      set (workspace.afterRun ⟨place, call⟩ below execution)
      return some execution

/-- Run a program in the working directory and wait for its end, however long that takes. None stands
for a run that never ends: then the wait has no end either, and what follows here never happens. -/
def executeHere (program : Path) (arguments : List String) :
    Action IoError (Option Execution) := do
  let workspace ← get
  match workspace.startableHere program arguments with
  | .error cause => throw cause
  | .ok (place, program) =>
    let call : Call := ⟨workspace.directory.path, arguments⟩
    match program.execute call (workspace.contentFrom workspace.directory) with
    | none => return none
    | some execution =>
      set (workspace.afterRun ⟨place, call⟩ workspace.directory execution)
      return some execution

end Action

end BundleFinish
