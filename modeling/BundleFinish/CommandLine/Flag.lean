/-! # Flags of the command line

A flag has a long name, some have a letter, and some take a value. Everything else on a command line
is an entry point. -/

namespace BundleFinish.CommandLine

/-- A flag. -/
inductive Flag where
  | config
  | cwd
  | outDir
  | rootDir
  | globalName
  | noDeclarations
  | tsc
  | verbose
  | quiet
  | noColor
  | help
  | version
  deriving DecidableEq, Repr

namespace Flag

/-- All flags, in the order of the help text. -/
def all : List Flag :=
  [.config, .cwd, .outDir, .rootDir, .globalName, .noDeclarations, .tsc, .verbose, .quiet,
    .noColor, .help, .version]

/-- The name of a flag behind two dashes. -/
def longName : Flag → String
  | .config => "config"
  | .cwd => "cwd"
  | .outDir => "out-dir"
  | .rootDir => "root-dir"
  | .globalName => "global-name"
  | .noDeclarations => "no-dts"
  | .tsc => "tsc"
  | .verbose => "verbose"
  | .quiet => "quiet"
  | .noColor => "no-color"
  | .help => "help"
  | .version => "version"

/-- The letter of a flag behind one dash. -/
def letter? : Flag → Option Char
  | .config => some 'c'
  | .outDir => some 'd'
  | .globalName => some 'g'
  | .verbose => some 'v'
  | .quiet => some 'q'
  | .help => some 'h'
  | .version => some 'V'
  | .cwd | .rootDir | .noDeclarations | .tsc | .noColor => none

/-- What the value of a flag is called, where it takes one. -/
def valueName? : Flag → Option String
  | .config => some "FILE"
  | .cwd | .outDir | .rootDir => some "DIR"
  | .globalName => some "NAME"
  | .tsc => some "PATH"
  | .noDeclarations | .verbose | .quiet | .noColor | .help | .version => none

/-- Whether a flag takes a value. -/
def takesValue (flag : Flag) : Bool := flag.valueName?.isSome

/-- The flag with a long name. -/
def ofLongName? (name : String) : Option Flag := all.find? (·.longName = name)

/-- The flag with a letter. -/
def ofLetter? (letter : Char) : Option Flag := all.find? (·.letter? = some letter)

/-- A flag as it is shown: its long name, and its value. -/
def display (flag : Flag) : String :=
  match flag.valueName? with
  | some value => s!"--{flag.longName} <{value}>"
  | none => s!"--{flag.longName}"

/-- Pairs of flags that cannot be given together. -/
def exclusions : List (Flag × Flag) := [(.tsc, .noDeclarations), (.quiet, .verbose)]

/-- Whether two flags cannot be given together. -/
def excludes (flag other : Flag) : Bool :=
  exclusions.contains (flag, other) || exclusions.contains (other, flag)

/-- A flag is found under its long name. -/
theorem ofLongName?_longName (flag : Flag) : ofLongName? flag.longName = some flag := by
  cases flag <;> decide

end Flag

/-- What can be given on a command line. -/
inductive Parameter where
  | entries
  | flag (named : Flag)
  deriving DecidableEq, Repr

/-- A parameter as it is shown. -/
def Parameter.display : Parameter → String
  | .entries => "[ENTRY]..."
  | .flag named => named.display

end BundleFinish.CommandLine
