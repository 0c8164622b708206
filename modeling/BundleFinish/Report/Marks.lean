import BundleFinish.Report.Excerpt
import BundleFinish.Text.ControlSequence

/-! # Marking a span in an excerpt

Every line of an excerpt is shown with its number. A span inside one line is underlined, with its
label below; a span over several lines is drawn at the edge of the lines. -/

namespace BundleFinish.Report

/-- Some copies of a character. -/
def copies (count : Nat) (c : Char) : List Char := List.replicate count c

/-- Spaces. -/
def blanks (count : Nat) : List Char := copies count ' '

/-! ## Columns -/

/-- The distance of the columns to which a tab leads. -/
def tabWidth : Nat := 4

/-- The number of columns of each character. A tab leads to the next stop; an escape character
starts a run without columns up to an `m`. -/
def columnWidths (column : Nat) (escaped : Bool) : List Char → List Nat
  | [] => []
  | c :: rest =>
    if escaped then 0 :: columnWidths column (c != 'm') rest
    else if c = Text.escape then 0 :: columnWidths column true rest
    else
      let width := if c = '\t' then tabWidth - column % tabWidth else Text.charWidth c
      width :: columnWidths (column + width) false rest

/-- The number of columns of a text from the start of a line. -/
def columns (text : List Char) : Nat := (columnWidths 0 false text).foldr (· + ·) 0

/-- A line of text with spaces for its tabs. -/
def withoutTabs (text : List Char) : List Char :=
  (text.zip (columnWidths 0 false text)).flatMap fun (c, width) =>
    if c = '\t' then blanks width else [c]

/-- The characters that start in front of an octet offset, and whether the offset is behind the end
of the text. -/
def prefixTo (roundUp : Bool) : (offset : Nat) → List Char → List Char × Bool
  | offset, [] => ([], decide (0 < offset))
  | offset, c :: rest =>
    if offset = 0 then ([], false)
    else if offset < c.utf8Size then (if roundUp then [c] else [], false)
    else
      let (taken, isBehind) := prefixTo roundUp (offset - c.utf8Size) rest
      (c :: taken, isBehind)

/-- The column of an octet offset in a line; one column past the end stands for all of the line
end. An offset inside a character counts as its start or, rounded up, as its end. -/
def columnOf (line : Line) (roundUp : Bool) (offset : Nat) : Nat :=
  let (taken, isBehind) := prefixTo roundUp (offset - line.offset) line.text
  columns taken + if isBehind then 1 else 0

/-! ## Edges -/

/-- The part of the edge beside the text of a line, for an excerpt in which the span has an edge. -/
def textEdge (line : Line) (span : Span) : List Char :=
  if line.isEdged span then
    if line.offset ≤ span.offset then "╭─▶ ".toList
    else if line.holdsStop span then "├─▶ ".toList
    else "│   ".toList
  else blanks 4

/-- The lines of a label. -/
def labelLines (label : String) : List (List Char) := Text.splitNewlines label.toList

/-! ## Labels -/

/-- A line without a number, behind the numbers of a width. -/
def unnumbered (numberWidth : Nat) (rest : List Char) : List Char :=
  blanks (numberWidth + 2) ++ "· ".toList ++ rest

/-- The lines of a label below the column it points at. -/
def pointedLabel (column : Nat) (label : String) : List (List Char) :=
  match labelLines label with
  | [] => []
  | [only] => [blanks column ++ "╰── ".toList ++ only]
  | first :: others =>
    (blanks column ++ "╰─┤ ".toList ++ first) ::
      others.map fun text => blanks column ++ "  │ ".toList ++ text

/-- The underline of a span inside a line, and its label. -/
def underline (line : Line) (span : Span) (label : String) : List (List Char) :=
  -- A span without columns, such as one on a line end, is still marked by one column.
  let start := columnOf line false span.offset
  let stop := max (start + 1) (columnOf line true (span.offset + span.length))
  let middle := (start + stop) / 2
  (blanks start ++ copies (middle - start) '─' ++ '┬' :: copies (stop - middle - 1) '─') ::
    pointedLabel middle label

/-- The end of the edge of a span over several lines, and its label. -/
def edgeLabel (label : String) : List (List Char) :=
  match labelLines label with
  | [] => []
  | [only] => ["╰──── ".toList ++ only]
  | first :: others =>
    ("╰──┤ ".toList ++ first) :: others.map fun text => "   │ ".toList ++ text

/-- What is drawn below a line. -/
def below (line : Line) (span : Span) (label : String) : List (List Char) :=
  if !line.touches span then []
  else if line.holdsAll span then underline line span label
  else if !(line.offset ≤ span.offset) && line.holdsStop span then edgeLabel label
  else []

/-! ## Excerpts -/

/-- Text in a column of a width, at the right. -/
def alignRight (width : Nat) (text : List Char) : List Char :=
  blanks (width - text.length) ++ text

/-- A line of an excerpt with what is drawn below it. -/
def drawLine (numberWidth : Nat) (hasEdge : Bool) (span : Span) (label : String) (line : Line) :
    List (List Char) :=
  let number := ' ' :: alignRight numberWidth (toString line.number).toList
  let edge := if hasEdge then textEdge line span else []
  (number ++ " │ ".toList ++ edge ++ withoutTabs line.text) ::
    (below line span label).map (unnumbered numberWidth)

/-- The lines of an excerpt around a labelled span. -/
def draw (source : Source) (octets : Bytes) (span : Span) (label : String) (excerpt : Excerpt) :
    List (List Char) :=
  let lines := excerpt.lines
  let hasEdge := lines.any fun line => line.isEdged span && !line.holdsAll span
  let numberWidth := (toString ((lines.getLast?.map Line.number).getD 0)).length
  let (row, column) := positionOf span octets
  (blanks (numberWidth + 2) ++ s!"╭─[{source.name}:{row}:{column}]".toList) ::
    lines.flatMap (drawLine numberWidth hasEdge span label)
    ++ [blanks (numberWidth + 2) ++ "╰────".toList]

/-- The excerpt of a source around a labelled span, or why there is none. -/
def drawSpan (source : Source) (span : Span) (label : String) : List String :=
  let octets := Utf8.encode source.text
  match excerpt? span octets with
  | some excerpt => (draw source octets span label excerpt).map String.ofList
  | none =>
    [s!"  [Failed to read contents for label `{label}` (offset: {span.offset}, "
      ++ s!"length: {span.length}): OutOfBounds]"]

end BundleFinish.Report
