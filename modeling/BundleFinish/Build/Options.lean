import BundleFinish.Files.Path

/-! # Options of a build

What the bundler that produced the output was told: where sources and outputs are, and which sources
the package publishes. Relative paths are resolved against one base directory. -/

namespace BundleFinish.Build

/-- The options of a build. -/
structure Options where
  /-- The base directory; a relative one starts at the working directory of the process. -/
  cwd : Path
  rootDir : Path
  outDir : Path
  entryPoints : List Path
  deriving DecidableEq, Repr

namespace Options

/-- The options used where none are given. -/
def default : Options :=
  { cwd := .ofString ".", rootDir := .ofString "src", outDir := .ofString "dist"
    entryPoints := [] }

/-- The base directory for relative paths, for a process that works in a directory. -/
def base (options : Options) (directory : Path) : Path :=
  if options.cwd.isAbsolute then options.cwd else directory.join options.cwd

/-- A path resolved against the base directory and cleaned. -/
def resolve (options : Options) (directory path : Path) : Path :=
  if path.isAbsolute then path.clean else ((options.base directory).join path).clean

/-- The resolved entry points. -/
def resolvedEntries (options : Options) (directory : Path) : List Path :=
  options.entryPoints.map (options.resolve directory)

/-- The resolved output directory. -/
def resolvedOutDir (options : Options) (directory : Path) : Path :=
  options.resolve directory options.outDir

/-- The resolved source root. -/
def resolvedRootDir (options : Options) (directory : Path) : Path :=
  options.resolve directory options.rootDir

end Options

end BundleFinish.Build
