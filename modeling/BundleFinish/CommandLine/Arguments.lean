import BundleFinish.CommandLine.Refusal
import BundleFinish.Files.Path
import BundleFinish.Logging.Level
import BundleFinish.Text.Similarity

/-! # Reading a command line

Arguments are read from left to right. A flag that takes a value gets it behind `=`, behind its
letter, or as the next argument; letters without a value can stand together. What follows `--` is an
entry point, whatever it looks like. A value that was read is checked when the next parameter
begins, so an argument that no flag has is reported before a wrong value in front of it. -/

namespace BundleFinish.CommandLine

/-- What was given on a command line. -/
structure Arguments where
  entries : List Path
  config : Option Path
  cwd : Option Path
  outDir : Option Path
  rootDir : Option Path
  globalName : Option String
  noDeclarations : Bool
  tsc : Option Path
  verbose : Bool
  quiet : Bool
  noColor : Bool
  deriving DecidableEq, Repr

namespace Arguments

/-- Nothing given. -/
def empty : Arguments :=
  { entries := [], config := none, cwd := none, outDir := none, rootDir := none
    globalName := none, noDeclarations := false, tsc := none, verbose := false, quiet := false
    noColor := false }

/-- How much of the log is shown: everything down to what helps with finding errors when that is
asked for, errors alone when quiet is asked for. -/
def verbosity (arguments : Arguments) : Logging.Verbosity :=
  if arguments.verbose then .upTo .debug
  else if arguments.quiet then .upTo .error
  else .upTo .info

/-- Set a flag that takes a path. -/
def setPath (arguments : Arguments) (flag : Flag) (path : Path) : Arguments :=
  match flag with
  | .config => { arguments with config := some path }
  | .cwd => { arguments with cwd := some path }
  | .outDir => { arguments with outDir := some path }
  | .rootDir => { arguments with rootDir := some path }
  | .tsc => { arguments with tsc := some path }
  | _ => arguments

/-- Set a flag that takes no value. -/
def setSwitch (arguments : Arguments) : Flag → Arguments
  | .noDeclarations => { arguments with noDeclarations := true }
  | .verbose => { arguments with verbose := true }
  | .quiet => { arguments with quiet := true }
  | .noColor => { arguments with noColor := true }
  | _ => arguments

/-- Set the value of a flag: a global name, or a path that is not empty. -/
def setValue (arguments : Arguments) (flag : Flag) (value : Bytes) : Except Refusal Arguments :=
  if flag = .globalName then
    match Utf8.decode? value with
    | none => .error .notText
    | some name =>
      match Umd.checkGlobalName name with
      | .ok () => .ok { arguments with globalName := some name }
      | .error cause => .error (.badGlobalName name cause)
  else if value = [] then .error (.missingValue (.flag flag))
  else .ok (arguments.setPath flag ⟨value⟩)

end Arguments

/-- What was read and not yet taken. -/
inductive Pending where
  | nothing
  /-- A flag that waits for its value. -/
  | waiting (flag : Flag)
  | value (flag : Flag) (value : Bytes)
  | entries (values : List Bytes)
  deriving DecidableEq, Repr

/-- How far the reading of a command line has come. -/
structure Reading where
  arguments : Arguments
  /-- The parameters that were taken, in order. -/
  given : List Parameter
  pending : Pending
  /-- Whether only entry points follow. -/
  isOpen : Bool
  deriving DecidableEq, Repr

/-- Add a parameter to those that were given. -/
def withParameter (given : List Parameter) (parameter : Parameter) : List Parameter :=
  if parameter ∈ given then given else given ++ [parameter]

/-- The least similarity that makes a name worth naming. -/
def similarityThreshold : Float := 0.7

/-- The flag whose long name is most similar to a name, if any is similar at all; the last of equally
similar ones. -/
def similarFlag? (name : String) : Option Flag :=
  let rated := Flag.all.map fun flag =>
    (Text.similarity name.toList flag.longName.toList, flag)
  let better := fun (best : Option (Float × Flag)) (rating : Float × Flag) =>
    if similarityThreshold < rating.1 then
      match best with
      | some found => if found.1 ≤ rating.1 then some rating else best
      | none => some rating
    else best
  (rated.foldl better none).map Prod.snd

namespace Reading

/-- The reading before the first argument. -/
def start : Reading :=
  { arguments := .empty, given := [], pending := .nothing, isOpen := false }

/-- Take the value of a flag. -/
def takeValue (reading : Reading) (flag : Flag) (value : Bytes) : Except Refusal Reading := do
  if .flag flag ∈ reading.given then throw (.repeated flag)
  let arguments ← reading.arguments.setValue flag value
  return { reading with arguments, given := reading.given ++ [.flag flag] }

/-- Take entry points. -/
def takeEntries (reading : Reading) (values : List Bytes) : Except Refusal Reading := do
  if values.contains [] then throw (.missingValue .entries)
  return { reading with
    arguments := { reading.arguments with
      entries := reading.arguments.entries ++ values.map fun value => ⟨value⟩ }
    given := withParameter reading.given .entries }

/-- Take what was read. -/
def settle (reading : Reading) : Except Refusal Reading :=
  let settled := { reading with pending := .nothing }
  match reading.pending with
  | .nothing => .ok reading
  | .waiting flag => .error (.missingValue (.flag flag))
  | .value flag value => settled.takeValue flag value
  | .entries values => settled.takeEntries values

/-- The parameters that count as given when the reading stops here. A flag that is being given a
second time does not. -/
def givenAtStop (reading : Reading) : List Parameter :=
  match reading.pending with
  | .nothing | .waiting _ => reading.given
  | .value flag _ =>
    if .flag flag ∈ reading.given then reading.given.erase (.flag flag)
    else reading.given ++ [.flag flag]
  | .entries _ => withParameter reading.given .entries

/-- Take a flag without a value. -/
def takeSwitch (reading : Reading) (flag : Flag) (detailed : Bool) : Except Refusal Reading := do
  let reading ← reading.settle
  match flag with
  | .help => throw (.help detailed)
  | .version => throw .version
  | _ =>
    if .flag flag ∈ reading.given then throw (.repeated flag)
    return { reading with
      arguments := reading.arguments.setSwitch flag
      given := reading.given ++ [.flag flag] }

/-- Read a flag that takes a value, with the value if it is attached. -/
def readValued (reading : Reading) (flag : Flag) (attached : Option Bytes) :
    Except Refusal Reading := do
  let reading ← reading.settle
  match attached with
  | some value => reading.takeValue flag value
  | none => return { reading with pending := .waiting flag }

/-- Read a flag by its long name. -/
def readLong (reading : Reading) (name : Bytes) (attached : Option Bytes) :
    Except Refusal Reading :=
  match (Utf8.decode? name).bind Flag.ofLongName? with
  | some flag =>
    if flag.takesValue then reading.readValued flag attached
    else
      match attached with
      -- What is pending is not looked at any more, whether it would be refused or not.
      | some value =>
        .error (.unwantedValue flag (Utf8.decodeLossy value)
          (withParameter reading.given (.flag flag)))
      | none => reading.takeSwitch flag true
  | none =>
    let shown := Utf8.decodeLossy name
    let similar := similarFlag? shown
    let given := reading.givenAtStop
    .error (.unknown ("--" ++ shown) similar
      (match similar with
      | some flag => withParameter given (.flag flag)
      | none => given))

/-- The octet of `=`. -/
def equalsSign : UInt8 := 0x3d

/-- The octet of `-`. -/
def dash : UInt8 := 0x2d

/-- A value behind a letter; one `=` in between says nothing. -/
def attachedValue : Bytes → Option Bytes
  | [] => none
  | octet :: rest => if octet = equalsSign then some rest else some (octet :: rest)

/-- Read flags by their letters; `noise` are octets behind them that are no text. -/
def readLetters (reading : Reading) (noise : Bytes) : List Char → Except Refusal Reading
  | [] =>
    if noise = [] then .ok reading
    else .error (.unknown ("-" ++ Utf8.decodeLossy noise) none [])
  | letter :: rest =>
    match Flag.ofLetter? letter with
    | none => .error (.unknown ("-" ++ String.singleton letter) none [])
    | some flag =>
      if flag.takesValue then
        reading.readValued flag (attachedValue (Utf8.encode (String.ofList rest) ++ noise))
      else
        match reading.takeSwitch flag false with
        | .ok reading => reading.readLetters noise rest
        | .error refusal => .error refusal

/-- Octets as the text in front of the first that is none, and the rest. -/
def splitNoise (octets : Bytes) : List Char × Bytes :=
  match Utf8.decode octets with
  | .ok text => (text.toList, [])
  | .error cause =>
    ((Utf8.decodeLossy (octets.take cause.index)).toList, octets.drop cause.index)

/-- Read an entry point. -/
def readEntry (reading : Reading) (value : Bytes) : Except Refusal Reading :=
  match reading.pending with
  | .entries values => .ok { reading with pending := .entries (values ++ [value]) }
  | _ => do
    let reading ← reading.settle
    return { reading with pending := .entries [value] }

/-- Read an argument that is no flag: the value that a flag waits for, or an entry point. -/
def readPlain (reading : Reading) (value : Bytes) : Except Refusal Reading :=
  match reading.pending with
  | .waiting flag => .ok { reading with pending := .value flag value }
  | _ => reading.readEntry value

/-- Read one argument. -/
def readArgument (reading : Reading) (argument : Bytes) : Except Refusal Reading :=
  if reading.isOpen then reading.readEntry argument
  else
    match argument with
    | first :: second :: rest =>
      if first = dash then
        if second = dash then
          if rest = [] then .ok { reading with isOpen := true }
          else
            reading.readLong (rest.takeWhile (· != equalsSign))
              (rest.dropWhile (· != equalsSign)).tail?
        else
          let (letters, noise) := splitNoise (second :: rest)
          reading.readLetters noise letters
      else reading.readPlain argument
    | _ => reading.readPlain argument

/-- The first given flag that excludes another given flag. -/
def exclusion? (given : List Parameter) : Option (Flag × Flag) :=
  let flags := given.filterMap fun parameter =>
    match parameter with
    | .flag flag => some flag
    | .entries => none
  flags.findSome? fun flag => (flags.find? flag.excludes).map fun other => (flag, other)

/-- Finish a reading after the last argument. -/
def finish (reading : Reading) : Except Refusal Arguments := do
  let reading ← reading.settle
  match exclusion? reading.given with
  | some (flag, other) =>
    throw (.excluded flag other (reading.given.filter (· ≠ .flag other)))
  | none => return reading.arguments

end Reading

/-- Read a command line, without the name of the program. -/
def Arguments.parse (arguments : List Bytes) : Except Refusal Arguments := do
  (← arguments.foldlM Reading.readArgument .start).finish

end BundleFinish.CommandLine
