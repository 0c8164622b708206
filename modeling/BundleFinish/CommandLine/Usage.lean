import BundleFinish.CommandLine.Flag

/-! # Usage and help

How the program is called, in one line after an error and in full on request. The full text has a
short and a detailed form. -/

namespace BundleFinish.CommandLine

/-- The name of the program. -/
def programName : String := "fob-postbuild"

/-- The version of the program. -/
def programVersion : String := "0.4.1"

/-- What the program does, in one line. -/
def summary : String := "Emit TypeScript declarations and UMD wrappers for a built library"

/-- What the program does, in full. -/
def purpose : String :=
  "Runs the fob post-build stages against an existing output directory.\n"
    ++ "Declarations are emitted for the given entry points with an isolated\n"
    ++ "type-checker run and linked into the sibling .js files. With\n"
    ++ "--global-name every .js output is also wrapped as a UMD module."

/-- What entry points are, in one line. -/
def entriesSummary : String := "Entry points, relative to the working directory"

/-- What else is to say about entry points. -/
def entriesDetail : String := "Overrides `entry_points` from the configuration file when given."

/-- What a flag does. The help itself points to its other form. -/
def Flag.summary (detailed : Bool) : Flag → String
  | .config => "Configuration file (defaults to fob-postbuild.json in the working directory)"
  | .cwd => "Working directory all other paths are resolved against"
  | .outDir => "Output directory of the finished build"
  | .rootDir => "Source root mirrored into the output directory"
  | .globalName => "Wrap every emitted .js file as UMD under this global name"
  | .noDeclarations => "Skip declaration emission"
  | .tsc => "Use this tsc executable instead of probing for one"
  | .verbose => "Enable verbose logging (debug level)"
  | .quiet => "Suppress all output except errors"
  | .noColor => "Disable colored output"
  | .help => if detailed then "Print help (see a summary with '-h')"
    else "Print help (see more with '--help')"
  | .version => "Print version"

/-- The words that stand for given parameters; entry points come last and are always named. -/
def usageWords (given : List Parameter) : List String :=
  let flags := given.filterMap fun parameter =>
    match parameter with
    | .flag flag => some flag.display
    | .entries => none
  flags ++ [if .entries ∈ given then "<ENTRY>..." else Parameter.entries.display]

/-- How the program is called, with the parameters that were given. -/
def usage (given : List Parameter) : String :=
  let words := if given = [] then ["[OPTIONS]", Parameter.entries.display] else usageWords given
  "Usage: " ++ " ".intercalate (programName :: words)

/-- The names of a flag, as they stand in front of what it does. -/
def Flag.heading (flag : Flag) : String :=
  match flag.letter? with
  | some letter => s!"  -{letter}, {flag.display}"
  | none => s!"      {flag.display}"

/-- A text with blanks behind it, up to a width. -/
def padTo (width : Nat) (text : String) : String :=
  text ++ String.ofList (List.replicate (width - text.length) ' ')

/-- The help text in short form: one line for each flag. -/
def shortHelp : String :=
  let headings := Flag.all.map Flag.heading
  let width := (headings.map String.length).foldl max 0 + 2
  let lines := Flag.all.map fun flag => padTo width flag.heading ++ flag.summary false ++ "\n"
  summary ++ "\n\n" ++ usage [] ++ "\n\nArguments:\n  " ++ Parameter.entries.display ++ "  "
    ++ entriesSummary ++ "\n\nOptions:\n" ++ String.join lines

/-- The blanks in front of an explanation in the detailed form. -/
def explanationIndent : String := "          "

/-- The help text in detailed form: a paragraph for each flag. -/
def detailedHelp : String :=
  let paragraphs := Flag.all.map fun flag =>
    flag.heading ++ "\n" ++ explanationIndent ++ flag.summary true ++ "\n"
  purpose ++ "\n\n" ++ usage [] ++ "\n\nArguments:\n  " ++ Parameter.entries.display ++ "\n"
    ++ explanationIndent ++ entriesSummary ++ "\n" ++ explanationIndent ++ "\n"
    ++ explanationIndent ++ entriesDetail ++ "\n\nOptions:\n" ++ "\n".intercalate paragraphs

end BundleFinish.CommandLine
