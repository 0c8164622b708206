import BundleFinish.Diagnostic.Basic
import BundleFinish.Text.Utf8

/-! # Excerpts of a source

The lines of a source around a span: the line before the one in which the span starts, and the line
behind the one in which it ends. A newline, a carriage return or both together end a line. A span
may reach one octet past the end of the source. -/

namespace BundleFinish.Report

/-- An octet of a source, or a carriage return with its newline. -/
structure Step where
  /-- The offset of its last octet. -/
  offset : Nat
  endsLine : Bool
  deriving DecidableEq, Repr

/-- The octet of a newline. -/
def newline : UInt8 := 10

/-- The octet of a carriage return. -/
def carriageReturn : UInt8 := 13

/-- The steps through octets of which the first is at an offset. -/
def steps (offset : Nat) : Bytes → List Step
  | [] => []
  | [octet] => [⟨offset, octet == newline || octet == carriageReturn⟩]
  | first :: second :: rest =>
    if first = carriageReturn ∧ second = newline then
      ⟨offset + 1, true⟩ :: steps (offset + 2) rest
    else
      ⟨offset, first == newline || first == carriageReturn⟩ :: steps (offset + 1) (second :: rest)

/-- The steps through a source in front of a span. -/
def stepsBefore (span : Span) (all : List Step) : List Step :=
  all.takeWhile fun step => step.offset < span.offset

/-- The starts of the lines that some steps from the start of a source lie in. -/
def lineStarts (before : List Step) : List Nat :=
  0 :: (before.filter Step.endsLine).map fun step => step.offset + 1

/-- The line and the column in which a span starts, both counted from one. Columns count octets. -/
def positionOf (span : Span) (octets : Bytes) : Nat × Nat :=
  let before := stepsBefore span (steps 0 octets)
  ((lineStarts before).length, (before.reverse.takeWhile fun step => !step.endsLine).length + 1)

/-- The offset behind the second line end in some steps, or the end of the source. -/
def behindSecondLine (sourceEnd : Nat) (behind : List Step) : Nat :=
  match (behind.filter Step.endsLine)[1]? with
  | some step => step.offset + 1
  | none => sourceEnd

/-- The last octet of a span, or where that would be in an empty one. -/
def lastOctet (span : Span) : Nat := span.offset + span.length - 1

/-- A part of a source: the number of lines in front of it, its offset, and its text. -/
structure Excerpt where
  linesBefore : Nat
  offset : Nat
  text : List Char
  deriving DecidableEq, Repr

/-- The part of a source around a span; none for a span too far behind the end. -/
def excerpt? (span : Span) (octets : Bytes) : Option Excerpt :=
  let all := steps 0 octets
  let before := stepsBefore span all
  let starts := (lineStarts before).reverse
  let start := (starts[1]?).getD 0
  let stop := behindSecondLine octets.length
    ((all.dropWhile fun step => step.offset < lastOctet span).tail)
  if octets.length < lastOctet span then none
  else
    some
      { linesBefore := starts.length - 2
        offset := start
        text := (Utf8.decodeLossy ((octets.take stop).drop start)).toList }

/-- A line of an excerpt. -/
structure Line where
  /-- Counted from one in the source. -/
  number : Nat
  offset : Nat
  /-- The number of octets with the line end. -/
  length : Nat
  text : List Char
  deriving DecidableEq, Repr

/-- Split text into lines with their lengths in octets, each line without its end. A carriage return
by itself ends no line here. `line` is the current line backwards. -/
def splitLines (line : List Char) (length : Nat) : List Char → List (List Char × Nat)
  | [] => if length = 0 then [] else [(line.reverse, length)]
  | '\n' :: rest => (line.reverse, length + 1) :: splitLines [] 0 rest
  | '\r' :: '\n' :: rest => (line.reverse, length + 2) :: splitLines [] 0 rest
  | c :: rest => splitLines (c :: line) (length + c.utf8Size) rest

/-- Give lines their offsets and numbers. A last line that ends with a carriage return by itself has
the number of the line before it. -/
def numberLines (number offset : Nat) : List (List Char × Nat) → List Line
  | [] => []
  | (text, length) :: rest =>
    let isLoneReturn := rest.isEmpty && text.getLast? == some '\r' &&
      length == Utf8.octetLength text
    ⟨if isLoneReturn then number - 1 else number, offset, length, text⟩ ::
      numberLines (number + 1) (offset + length) rest

/-- The lines of an excerpt. -/
def Excerpt.lines (excerpt : Excerpt) : List Line :=
  numberLines (excerpt.linesBefore + 1) excerpt.offset (splitLines [] 0 excerpt.text)

namespace Line

/-- The offset behind a line. -/
def stop (line : Line) : Nat := line.offset + line.length

/-- Whether a span starts in a line. -/
def holdsStart (line : Line) (span : Span) : Bool :=
  line.offset ≤ span.offset && span.offset < line.stop

/-- Whether the last octet of a span is in a line. -/
def holdsEnd (line : Line) (span : Span) : Bool :=
  line.offset < span.offset + span.length && span.offset + span.length ≤ line.stop

/-- Whether a span ends in a line or right in front of it. -/
def holdsStop (line : Line) (span : Span) : Bool :=
  line.offset ≤ span.offset + span.length && span.offset + span.length ≤ line.stop

/-- Whether a span covers a line and both of its neighbours in part. -/
def isPassed (line : Line) (span : Span) : Bool :=
  span.offset < line.offset && line.stop < span.offset + span.length

/-- Whether a part of a span is in a line. -/
def touches (line : Line) (span : Span) : Bool :=
  line.holdsStart span || line.isPassed span || line.holdsEnd span

/-- Whether a span lies between the ends of a line. -/
def holdsAll (line : Line) (span : Span) : Bool :=
  line.offset ≤ span.offset && span.offset + span.length ≤ line.stop

/-- Whether a span is marked at the edge of a line. -/
def isEdged (line : Line) (span : Span) : Bool :=
  line.touches span && !(line.holdsStart span && line.holdsEnd span)

end Line

end BundleFinish.Report
