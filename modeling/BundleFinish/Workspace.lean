import BundleFinish.Declarations.Options
import BundleFinish.Files.Tree
import BundleFinish.Logging.Level

/-! # Workspaces

A workspace is everything that a build sees and changes: the files, the directory it works in, the
environment, the programs it can start, and the record of what it did. An action on a workspace may
fail; what it did before stays done. -/

namespace BundleFinish

/-- A log line, with the part of the program that wrote it. -/
structure LogLine where
  level : Logging.Level
  target : String
  text : String
  deriving DecidableEq, Repr

/-- A program that was run, and how it was called. -/
structure Run where
  /-- Where the program stands in the file tree; none for one that stands elsewhere. -/
  place : Option Location
  call : Call
  deriving DecidableEq, Repr

/-- A type-checker that was called. -/
structure Emission where
  checker : String
  files : List Path
  options : Declarations.Options
  deriving DecidableEq, Repr

/-- Everything that a build sees and changes. -/
structure Workspace where
  files : FileTree
  /-- The working directory. -/
  directory : Location
  /-- The variables of the environment. -/
  environment : List (String × String)
  /-- The program that looks up other programs, where there is one outside of the file tree. -/
  finder : Option Program
  /-- The place to which the search path leads for any other bare name of a program, among some files
  and for a process in some directory. -/
  search : FileTree → Location → Path → Except IoError Location := fun _ _ _ => .error .notFound
  /-- The programs that were run to their end, in order. -/
  runs : List Run
  /-- The type-checkers that were called, in order. -/
  emissions : List Emission
  log : List LogLine

namespace Workspace

/-- A workspace in which nothing was done yet. -/
def start (files : FileTree) (directory : Location) (environment : List (String × String))
    (finder : Option Program) : Workspace :=
  { files, directory, environment, finder, runs := [], emissions := [], log := [] }

/-- The working directory as a path. -/
def directoryPath (workspace : Workspace) : Path := workspace.directory.path

/-- Whether a path leads to something. -/
def exists? (workspace : Workspace) (path : Path) : Bool :=
  workspace.files.exists? workspace.directory path

/-- Whether a path leads to a regular file. -/
def isFile (workspace : Workspace) (path : Path) : Bool :=
  workspace.files.isFile workspace.directory path

/-- The value of a variable of the environment. -/
def variableNamed (workspace : Workspace) (name : String) : Option String :=
  workspace.environment.lookup name

end Workspace

/-- An action on a workspace that may fail. -/
abbrev Action (ε α : Type) := ExceptT ε (StateM Workspace) α

namespace Action

variable {ε : Type}

/-- Write a log line. -/
def log (level : Logging.Level) (target text : String) : Action ε Unit :=
  modify fun workspace => { workspace with log := workspace.log ++ [⟨level, target, text⟩] }

/-- The working directory, which may have been removed. -/
def currentDirectory : Action IoError Path := do
  let workspace ← get
  match workspace.files.get? workspace.directory with
  | some .directory => return workspace.directoryPath
  | _ => throw .notFound

/-- Read a file as text. -/
def readText (path : Path) : Action IoError String := do
  match (← get).files.readText (← get).directory path with
  | .ok text => return text
  | .error cause => throw cause

/-- Write a file. Where this fails, the file could not be opened, and is as it was. -/
def writeText (path : Path) (text : String) : Action IoError Unit := do
  match (← get).files.write (← get).directory path (Utf8.encode text) with
  | .ok files => modify fun workspace => { workspace with files }
  | .error cause => throw cause

/-- Do an action whose failure is a value. -/
def attempt {δ α : Type} (action : Action ε α) : Action δ (Except ε α) :=
  ExceptT.mk do return .ok (← ExceptT.run action)

/-- Name the causes of failures anew. -/
def mapError {δ α : Type} (f : ε → δ) (action : Action ε α) : Action δ α :=
  ExceptT.mk do return (← ExceptT.run action).mapError f

/-- Do an action that works on the files and on the record, but cannot change where the process
works, its environment, or what it can start. -/
def confined {α : Type} (action : Action ε α) : Action ε α :=
  ExceptT.mk fun workspace =>
    let (value, after) := StateT.run (ExceptT.run action) workspace
    (value, { after with
      directory := workspace.directory
      environment := workspace.environment
      finder := workspace.finder
      search := workspace.search })

end Action

end BundleFinish
