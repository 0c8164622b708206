import BundleFinish.CommandLine.Run

/-! # What a run looks at

A run looks at few files: its settings, its entry points, the compilers installed around a project,
and all of its output directory. The settings are known from the command line; the rest is known
once they are read. -/

namespace BundleFinish.CommandLine

/-- The files that a run reads before it is configured. -/
def settingsPaths (arguments : Arguments) (directory : Path) : List Path :=
  [configPath arguments (workingDirectory arguments directory)]

/-- What a configured run looks at. -/
structure Reach where
  /-- Files that are looked at by themselves. -/
  files : List Path
  /-- Directories that are looked at with all that is below them. -/
  directories : List Path
  deriving DecidableEq, Repr

namespace Reach

/-- A run that cannot be configured looks at nothing more. -/
def nothing : Reach := ⟨[], []⟩

/-- What a run looks at for its configuration, in a process that works in a directory. -/
def ofConfiguration (configuration : Configuration) (cwd directory : Path) : Reach :=
  let options := configuration.buildOptions cwd
  let compilers := (options.base directory).ancestors.map Declarations.Compiler.installedIn
  { files :=
      options.resolvedEntries directory ++ configuration.declarations.tsc.toList
        ++ options.base directory :: compilers
    directories := [options.resolvedOutDir directory] }

/-- What a run looks at, in a workspace that holds its settings. -/
def ofArguments (arguments : Arguments) (workspace : Workspace) : Reach :=
  let cwd := workingDirectory arguments workspace.directoryPath
  match loadConfiguration arguments cwd workspace with
  | .ok configuration => ofConfiguration configuration cwd workspace.directoryPath
  | .error _ => nothing

end Reach

end BundleFinish.CommandLine
