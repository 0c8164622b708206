import BundleFinish.Logging.Level
import BundleFinish.Text.Letter

/-! # Which log lines are shown

A filter is a list of directives, such as `warn` or `target=debug`. The directive with the longest
target that begins the target of a line decides about the line; a later one wins over an equal one.
A directive may name a span or a field in brackets; lines stand in no span, and have one field. -/

namespace BundleFinish.Logging

/-- A part of a filter. -/
structure Directive where
  /-- What the targets of lines begin with; none for all targets. -/
  target : Option String
  /-- The span that lines have to stand in. -/
  span : Option String
  /-- A field that lines have to have. -/
  field : Option String
  verbosity : Verbosity
  deriving DecidableEq, Repr

/-- Why a text is no directive. -/
inductive DirectiveError where
  | malformed
  /-- The level has no known name. -/
  | badLevel
  deriving DecidableEq, Repr

/-- The words for an error. -/
def DirectiveError.message : DirectiveError → String
  | .malformed => "invalid filter directive"
  | .badLevel =>
    "error parsing level filter: expected one of \"off\", \"error\", \"warn\", \"info\", \"debug\", "
      ++ "\"trace\", or a number 0-5"

/-- The level with a name, in any case of ASCII letters, or with a number; no name is the gravest
level. -/
def levelOfName? (name : List Char) : Option Verbosity :=
  match String.ofList (name.map Char.toLower) with
  | "off" | "0" => some .silent
  | "" | "error" | "1" => some (.upTo .error)
  | "warn" | "2" => some (.upTo .warn)
  | "info" | "3" => some (.upTo .info)
  | "debug" | "4" => some (.upTo .debug)
  | "trace" | "5" => some (.upTo .trace)
  | _ => none

namespace Directive

/-- The directive that shows everything. -/
def everything : Directive := ⟨none, none, none, .upTo .trace⟩

/-- The directive that shows all lines down to a level. -/
def ofVerbosity (verbosity : Verbosity) : Directive := { everything with verbosity }

/-- Read the level at the end of a directive; no name stands for all levels. -/
def withLevel (directive : Directive) (name : List Char) : Except DirectiveError Directive :=
  if name = [] then .ok directive
  else
    match levelOfName? name with
    | some verbosity => .ok { directive with verbosity }
    | none => .error .badLevel

/-- Read what follows the brackets of a directive. -/
def afterBrackets (directive : Directive) : List Char → Except DirectiveError Directive
  | [] => .ok directive
  | '=' :: level => directive.withLevel level
  | _ => .error .malformed

/-- Read the brackets of a directive from behind the opening one: a span, a field in braces, or
both. -/
def brackets (directive : Directive) (text : List Char) : Except DirectiveError Directive :=
  let span := text.takeWhile fun c => c != ']' && c != '\x7b'
  match text.dropWhile fun c => c != ']' && c != '\x7b' with
  | ']' :: rest => afterBrackets { directive with span := some (String.ofList span) } rest
  | _ :: rest =>
    let field := rest.takeWhile (· != '\x7d')
    match rest.dropWhile (· != '\x7d') with
    | _ :: ']' :: rest =>
      if field = [] then .error .malformed
      else
        afterBrackets
          { directive with
            span := if span = [] then none else some (String.ofList span)
            field := some (String.ofList field) }
          rest
    | _ => .error .malformed
  | [] => .error .malformed

/-- Whether a directive can begin with a character. -/
def isStart (c : Char) : Bool := c == '-' || c == ':' || c == '_' || Text.isAlphanumeric c

/-- Read a directive. -/
def parse (text : List Char) : Except DirectiveError Directive :=
  match text with
  | '[' :: rest => everything.brackets rest
  | first :: _ =>
    if !isStart first then .error .malformed
    else
      let target := text.takeWhile fun c => c != '=' && c != '['
      let directive := { everything with target := some (String.ofList target) }
      match text.dropWhile fun c => c != '=' && c != '[' with
      | '=' :: level => directive.withLevel level
      | _ :: rest => directive.brackets rest
      | [] =>
        -- A lone word is a level where it names one, and a target otherwise.
        match levelOfName? target with
        | some verbosity => .ok (ofVerbosity verbosity)
        | none => .ok directive
  | [] => .error .malformed

/-- The one field of a line. -/
def messageField : String := "message"

/-- Whether a directive is about the lines of a target. -/
def concerns (directive : Directive) (target : String) : Bool :=
  directive.span == none
    && (directive.field == none || directive.field == some messageField)
    && match directive.target with
      | some start => start.toList.isPrefixOf target.toList
      | none => true

/-- How much a directive asks for: a longer target is more, and so is a field. -/
def rank (directive : Directive) : Nat :=
  2 * (match directive.target with
    | some target => target.utf8ByteSize + 1
    | none => 0)
    + if directive.field == none then 0 else 1

end Directive

/-- A filter of log lines. -/
structure Filter where
  directives : List Directive
  deriving DecidableEq, Repr

namespace Filter

/-- The directive that decides about the lines of a target. -/
def deciding? (filter : Filter) (target : String) : Option Directive :=
  (filter.directives.filter (·.concerns target)).foldl
    (fun best directive =>
      match best with
      | some found => if found.rank ≤ directive.rank then some directive else best
      | none => some directive)
    none

/-- Whether a line is shown. -/
def shows (filter : Filter) (target : String) (level : Level) : Bool :=
  match filter.deciding? target with
  | some directive => directive.verbosity.shows level
  | none => false

/-- The name of the variable that holds directives. -/
def variableName : String := "RUST_LOG"

/-- What cannot be read, and why. -/
structure Ignored where
  text : String
  cause : DirectiveError
  deriving DecidableEq, Repr

/-- The line about a directive that cannot be read. -/
def Ignored.line (ignored : Ignored) : String :=
  s!"ignoring `{ignored.text}`: {ignored.cause.message}"

/-- The directives in a text, between commas, and what cannot be read of them. -/
def readDirectives (text : String) : List Directive × List Ignored :=
  let pieces := (text.toList.splitOn ',').filter (· ≠ [])
  let readings := pieces.map fun piece => (piece, Directive.parse piece)
  (readings.filterMap fun (_, reading) => reading.toOption,
    readings.filterMap fun (piece, reading) =>
      match reading with
      | .ok _ => none
      | .error cause => some ⟨String.ofList piece, cause⟩)

/-- The filter of a text. A text without directives shows all lines down to a level. -/
def ofText (otherwise : Verbosity) (text : String) : Filter × List Ignored :=
  let (directives, ignored) := readDirectives text
  (⟨if directives = [] then [.ofVerbosity otherwise] else directives⟩, ignored)

end Filter

end BundleFinish.Logging
