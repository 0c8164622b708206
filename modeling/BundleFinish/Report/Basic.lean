import BundleFinish.Report.Marks
import BundleFinish.Text.Wrap

/-! # Reports

A report tells about one problem on a screen of some width: its code, what happened, what is behind
it, the place in a source, and what to do. -/

namespace BundleFinish

/-- A labelled place in a source. -/
structure Report.Place where
  source : Source
  span : Span
  label : String
  deriving DecidableEq, Repr

/-- A problem to tell about. -/
structure Report where
  severity : Severity
  code : Option String
  message : String
  /-- What is behind it, the nearest first. -/
  causes : List String
  place : Option Report.Place
  help : Option String
  deriving DecidableEq, Repr

namespace Report

/-- The sign in front of a message. -/
def sign : Severity → String
  | .error => "×"
  | .warning => "⚠"

/-- The lines for what is behind a problem. -/
def causeLines (width : Nat) : List String → List String
  | [] => []
  | [last] => Text.wrap ⟨"  ╰─▶ ", "      "⟩ width last
  | cause :: others =>
    Text.wrap ⟨"  ├─▶ ", "  │   "⟩ width cause ++ causeLines width others

/-- The lines of a report. -/
def lines (report : Report) (screenWidth : Nat) : List String :=
  let width := screenWidth - 2
  let codeLines := match report.code with
    | some code => [code, ""]
    | none => []
  let helpLines := match report.help with
    | some help => Text.wrap ⟨"  help: ", "        "⟩ width help
    | none => []
  let placeLines := match report.place with
    | some place => drawSpan place.source place.span place.label
    | none => []
  codeLines ++ Text.wrap ⟨s!"  {sign report.severity} ", "  │ "⟩ width report.message
    ++ causeLines width report.causes ++ placeLines ++ helpLines

/-- The text of a report; every line is ended. -/
def render (report : Report) (screenWidth : Nat) : String :=
  String.join ((report.lines screenWidth).map (· ++ "\n"))

end Report

namespace Diagnostic

/-- The width of the screen that diagnostics are rendered for. -/
def screenWidth : Nat := 200

/-- The report of a diagnostic. -/
def report (diagnostic : Diagnostic) : Report :=
  { severity := diagnostic.severity
    code := diagnostic.code
    message := diagnostic.message
    causes := []
    place := do
      let source ← diagnostic.source
      let span ← diagnostic.place
      return { source, span, label := diagnostic.labelText }
    help := none }

/-- The reports of diagnostics, one after the other. -/
def render (diagnostics : List Diagnostic) : String :=
  String.join (diagnostics.map fun diagnostic => diagnostic.report.render screenWidth)

end Diagnostic

end BundleFinish
