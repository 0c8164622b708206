import BundleFinish.Diagnostic.Sources
import BundleFinish.Proofs.SourceLines
import BundleFinish.Proofs.Trees

/-! # Labels of diagnostics

A diagnostic whose file can be read gets the text of that file, and a label in it where its place
can be found: at the span that the type-checker gave, where that starts in the text, and else at the
token under its line and column (`Diagnostic.attachSources_labels`). Such a token ends with its
line. A span is taken as long as it is given, so a label reaches over the end of its source exactly
where a span does that starts in it (`Diagnostic.liesIn_withSource_iff`). -/

namespace BundleFinish

open Text Utf8

/-! ## Tokens -/

/-- **The token at the front of a text** is the longest run of letters, numbers, underscores and
dollar signs there. -/
structure IsToken (token text : List Char) : Prop where
  front : token <+: text
  parts : ∀ c ∈ token, isIdentifierPart c = true
  longest : ∀ run, run <+: text → (∀ c ∈ run, isIdentifierPart c = true) →
    run.length ≤ token.length

/-- Taking characters as long as they belong to an identifier takes the token. -/
theorem isToken_takeWhile (text : List Char) : IsToken (text.takeWhile isIdentifierPart) text where
  front := List.takeWhile_prefix _
  parts := fun _ => List.mem_takeWhile_imp
  longest := by
    rintro run ⟨rest, rfl⟩ parts
    rw [List.takeWhile_append_of_pos parts, List.length_append]
    exact Nat.le_add_right _ _

/-- Dropping the octets in front of a place leaves what stands behind it. -/
theorem dropOctets?_append (front rest : List Char) :
    dropOctets? (octetLength front) (front ++ rest) = some rest := by
  induction front with
  | nil => rw [octetLength_nil, List.nil_append, dropOctets?]
  | cons c others ih =>
    -- A character has at least one octet, so the offset behind it is not zero.
    obtain ⟨more, size⟩ := Nat.exists_eq_add_of_lt c.utf8Size_pos
    have positive : octetLength (c :: others) = more + octetLength others + 1 := by
      rw [octetLength_cons, size]
      omega
    rw [positive, List.cons_append, dropOctets?, if_pos (by omega)]
    rwa [show more + octetLength others + 1 - c.utf8Size = octetLength others by omega]

/-- The length of the token at a place. -/
theorem tokenLength_append (front rest : List Char) :
    tokenLength (front ++ rest) (octetLength front) =
      max 1 (octetLength (rest.takeWhile isIdentifierPart)) := by
  rw [tokenLength, dropOctets?_append]

namespace Text.TextLine

variable {line : TextLine} {text left : List Char}

/-- All that stands behind the content of a line. -/
def behind (line : TextLine) : List Char := List.replicate line.returns '\r' ++ line.rest

/-- No token starts behind the content of a line. -/
theorem IsIn.takeWhile_behind (isIn : line.IsIn text) :
    line.behind.takeWhile isIdentifierPart = [] := by
  unfold behind
  rcases line.returns with _ | more
  · rcases isIn.ends with ended | ⟨last, -⟩
    · obtain ⟨after, shape⟩ := List.head?_eq_some_iff.mp ended
      rw [shape]
      exact List.takeWhile_cons_of_neg (by decide)
    · rw [last]
      rfl
  · exact List.takeWhile_cons_of_neg (by decide)

/-- A token that starts in the content of a line ends in it. -/
theorem IsIn.exists_token (isIn : line.IsIn text) (inContent : left <+: line.content) :
    ∃ rest, text = (line.before ++ left) ++ rest ∧
      left ++ rest.takeWhile isIdentifierPart <+: line.content := by
  obtain ⟨right, split⟩ := inContent
  refine ⟨right ++ line.behind, ?_, ?_⟩
  · rw [isIn.whole, body, ← split, behind]
    simp only [List.append_assoc]
  · -- The token cannot go on behind the content, so it is a front of what is left of that.
    have within : (right ++ line.behind).takeWhile isIdentifierPart <+: right := by
      rw [List.takeWhile_append, isIn.takeWhile_behind, List.append_nil]
      split_ifs
      · exact List.prefix_rfl
      · exact List.takeWhile_prefix _
    rw [← split]
    exact (List.prefix_append_right_inj left).mpr within

end Text.TextLine

/-- **A label at a line and a column** starts at the place that they lead to and is as long as the
token there, or one octet long where there is none. It ends in the content of its line, unless it is
a single octet at the end of that content. -/
structure LabelsToken (source : String) (number column : Nat) (label : Span) : Prop where
  starts : lineColumnToOffset source number column = some label.offset
  covers : ∃ front behind token, source.toList = front ++ behind ∧
    octetLength front = label.offset ∧ IsToken token behind ∧
    label.length = if token = [] then 1 else octetLength token
  inLine : ∃ line : TextLine, line.IsIn source.toList ∧ line.number = number ∧
    (label.offset + label.length ≤ line.stop ∨ label.offset = line.stop ∧ label.length = 1)

/-- The octets of a token, and at least one. -/
theorem max_octetLength (token : List Char) :
    max 1 (octetLength token) = if token = [] then 1 else octetLength token := by
  split_ifs with empty
  · rw [empty]
    rfl
  · have some : octetLength token ≠ 0 := by
      rwa [octetLength_eq_utf8Len, ne_eq, String.utf8Len_eq_zero]
    omega

/-- The token under a line and a column is labelled. -/
theorem labelsToken {source : String} {number column offset : Nat}
    (found : lineColumnToOffset source number column = some offset) :
    LabelsToken source number column ⟨offset, tokenLength source.toList offset⟩ := by
  obtain ⟨line, isIn, numbered, rfl⟩ := lineColumnToOffset_eq_some_iff.mp found
  have inContent := List.take_prefix (column - 1) line.content
  obtain ⟨rest, whole, within⟩ := isIn.exists_token inContent
  have length : tokenLength source.toList
      (octetLength (line.before ++ line.content.take (column - 1))) =
        max 1 (octetLength (rest.takeWhile isIdentifierPart)) := by
    rw [whole, tokenLength_append]
  refine ⟨found, ⟨_, rest, _, whole, rfl, isToken_takeWhile rest, ?_⟩, line, isIn, numbered, ?_⟩
  · rw [length, max_octetLength]
  · have starts := TextLine.octetLength_le_stop inContent
    have ends := TextLine.octetLength_le_stop within
    rw [← List.append_assoc, octetLength_append] at ends
    rw [length]
    dsimp only
    omega

namespace Diagnostic

/-! ## Labels of one diagnostic -/

variable {diagnostic : Diagnostic} {text : String} {label : Span}

/-- The type-checker gave a span that starts in a text. -/
def HasSpanIn (diagnostic : Diagnostic) (text : String) : Prop :=
  ∃ span, diagnostic.span = some span ∧ span.offset ≤ text.utf8ByteSize

/-- The line and the column of a diagnostic lead to a place in a text. -/
def HasPositionIn (diagnostic : Diagnostic) (text : String) : Prop :=
  ∃ number column offset, diagnostic.line = some number ∧ diagnostic.column = some column ∧
    lineColumnToOffset text number column = some offset

/-- A span that starts in the text is the place, at least one octet long. -/
theorem placeIn?_of_span {span : Span} (given : diagnostic.span = some span)
    (starts : span.offset ≤ text.utf8ByteSize) :
    diagnostic.placeIn? text = some { span with length := max 1 span.length } := by
  unfold placeIn?
  rw [given]
  exact if_pos starts

/-- Without such a span, the place is the token under line and column. -/
theorem placeIn?_of_not_hasSpanIn (noSpan : ¬diagnostic.HasSpanIn text) :
    diagnostic.placeIn? text = do
      let number ← diagnostic.line
      let column ← diagnostic.column
      let offset ← lineColumnToOffset text number column
      return ⟨offset, tokenLength text.toList offset⟩ := by
  unfold placeIn?
  rcases given : diagnostic.span with _ | span
  · rfl
  · exact if_neg fun starts => noSpan ⟨span, given, starts⟩

/-- Without such a span, a label is at the line and the column of the diagnostic. -/
theorem exists_labelsToken (noSpan : ¬diagnostic.HasSpanIn text)
    (placed : diagnostic.placeIn? text = some label) :
    ∃ number column, diagnostic.line = some number ∧ diagnostic.column = some column ∧
      LabelsToken text number column label := by
  rw [placeIn?_of_not_hasSpanIn noSpan] at placed
  obtain ⟨number, isLine, rest⟩ := Option.bind_eq_some_iff.mp placed
  obtain ⟨column, isColumn, rest⟩ := Option.bind_eq_some_iff.mp rest
  obtain ⟨offset, found, same⟩ := Option.bind_eq_some_iff.mp rest
  obtain rfl := Option.some.inj same
  exact ⟨number, column, isLine, isColumn, labelsToken found⟩

/-- There is a label exactly where the span starts in the text, or line and column lead there. -/
theorem isSome_placeIn?_iff :
    (diagnostic.placeIn? text).isSome = true ↔
      diagnostic.HasSpanIn text ∨ diagnostic.HasPositionIn text := by
  by_cases hasSpan : diagnostic.HasSpanIn text
  · obtain ⟨span, given, starts⟩ := hasSpan
    rw [placeIn?_of_span given starts]
    exact iff_of_true rfl (.inl ⟨span, given, starts⟩)
  · rw [or_iff_right hasSpan]
    constructor
    · intro some
      obtain ⟨label, placed⟩ := Option.isSome_iff_exists.mp some
      obtain ⟨number, column, isLine, isColumn, labels⟩ := exists_labelsToken hasSpan placed
      exact ⟨number, column, label.offset, isLine, isColumn, labels.starts⟩
    · rintro ⟨number, column, offset, isLine, isColumn, found⟩
      rw [placeIn?_of_not_hasSpanIn hasSpan, isLine, isColumn]
      simp [found]

/-! ## Attaching sources -/

/-- The text of the file that a diagnostic names, seen from a directory, where the file can be read
as UTF-8. -/
def sourceText? (workspace : Workspace) (directory : Path) (diagnostic : Diagnostic) :
    Option String := do
  let file ← diagnostic.file
  (workspace.files.readText workspace.directory (directory.joinText file)).toOption

/-- Nothing was attached to a diagnostic yet. -/
def IsBare (diagnostic : Diagnostic) : Prop := diagnostic.source = none ∧ diagnostic.place = none

/-- **What attaching a source does to a diagnostic**, by the text of its file, where that can be
read. -/
structure Attached (text? : Option String) (given shown : Diagnostic) : Prop where
  /-- Nothing but the source and the label is new. -/
  kept : shown = { given with source := shown.source, place := shown.place }
  source : shown.source = text?.map fun text => ⟨given.file.getD "", text⟩
  labelled : shown.place.isSome = true ↔
    ∃ text, text? = some text ∧ (given.HasSpanIn text ∨ given.HasPositionIn text)
  /-- A span that starts in the text wins over line and column. -/
  bySpan : ∀ text span, text? = some text → given.span = some span →
    span.offset ≤ text.utf8ByteSize →
      shown.place = some { span with length := max 1 span.length }
  byPosition : ∀ text label, text? = some text → ¬given.HasSpanIn text →
    shown.place = some label →
      ∃ number column, given.line = some number ∧ given.column = some column ∧
        LabelsToken text number column label

/-- A source is attached where it can be read. -/
theorem attachSource_eq (workspace : Workspace) (directory : Path) (diagnostic : Diagnostic) :
    diagnostic.attachSource workspace directory =
      match diagnostic.sourceText? workspace directory with
      | some text => diagnostic.withSource text
      | none => diagnostic := by
  unfold attachSource sourceText?
  rcases diagnostic.file with _ | file
  · rfl
  · simp only [Option.bind_eq_bind, Option.bind_some]
    rcases workspace.files.readText workspace.directory (directory.joinText file) with _ | text
    · rfl
    · rfl

/-- One diagnostic with its source. -/
theorem attached_attachSource (workspace : Workspace) (directory : Path)
    (bare : diagnostic.IsBare) :
    Attached (diagnostic.sourceText? workspace directory) diagnostic
      (diagnostic.attachSource workspace directory) := by
  rw [attachSource_eq]
  rcases diagnostic.sourceText? workspace directory with _ | text
  · refine ⟨rfl, bare.1, ?_, nofun, nofun⟩
    exact iff_of_false (by simp [bare.2]) (by simp)
  · refine ⟨rfl, rfl, ?_, ?_, ?_⟩
    · exact isSome_placeIn?_iff.trans (by simp)
    · rintro _ span ⟨⟩ given starts
      exact placeIn?_of_span given starts
    · rintro _ label ⟨⟩ noSpan placed
      exact exists_labelsToken noSpan placed

/-- **Labels of diagnostics.** Attaching sources to diagnostics without any keeps their number,
their order and all that they say. A diagnostic has a label afterwards exactly if its file reads as
UTF-8 and either its span starts in that text or its line and column lead to a place there. The span
comes first; otherwise the label covers the token under line and column. -/
theorem attachSources_labels (workspace : Workspace) (directory : Path)
    (diagnostics : List Diagnostic) (bare : ∀ diagnostic ∈ diagnostics, diagnostic.IsBare) :
    List.Forall₂ (fun given shown => Attached (given.sourceText? workspace directory) given shown)
      diagnostics (attachSources workspace directory diagnostics) := by
  rw [attachSources, List.forall₂_map_right_iff, List.forall₂_same]
  exact fun diagnostic member => attached_attachSource workspace directory (bare diagnostic member)

/-- A directory with a source, and with a file that is not UTF-8. -/
def sourceFiles : Workspace :=
  .start
    (.ofNodes [([Utf8.encode "a.ts"], .file (Utf8.encode "let é = 1;\r\n") none),
      ([Utf8.encode "b.ts"], .file [0xff] none)])
    [] [] none

/-- Diagnostics with a position, with a span that wins over it, with a span behind the end, in the
other file, and without a file. -/
def bareReports : List Diagnostic :=
  [(error "a").locatedAt "a.ts" 1 5,
    { (error "b").locatedAt "a.ts" 1 5 with span := some ⟨0, 3⟩ },
    { (error "c").locatedAt "a.ts" 1 99 with span := some ⟨99, 1⟩ },
    (error "d").locatedAt "b.ts" 1 1, error "e"]

theorem attachSources_labels_sample :
    (∀ diagnostic ∈ bareReports, diagnostic.IsBare) ∧
      List.Forall₂
        (fun given shown => Attached (given.sourceText? sourceFiles .root) given shown)
        bareReports (attachSources sourceFiles .root bareReports) ∧
      (attachSources sourceFiles .root bareReports).map Diagnostic.place =
        [some ⟨4, 2⟩, some ⟨0, 3⟩, some ⟨11, 1⟩, none, none] := by
  have bare : ∀ diagnostic ∈ bareReports, diagnostic.IsBare := by
    simp [bareReports, IsBare, error, locatedAt]
  exact ⟨bare, attachSources_labels sourceFiles .root bareReports bare, by decide +kernel⟩

end Diagnostic

/-! ## Labels inside their source -/

/-- A label lies in a source with so many octets, or is a single octet behind its end. -/
def Span.LiesIn (label : Span) (size : Nat) : Prop :=
  label.offset ≤ size ∧
    (label.offset + label.length ≤ size ∨ label.offset = size ∧ label.length = 1)

/-- A label at a line and a column lies in the source. -/
theorem LabelsToken.liesIn {text : String} {number column : Nat} {label : Span}
    (labels : LabelsToken text number column label) : label.LiesIn text.utf8ByteSize := by
  obtain ⟨line, isIn, -, inLine⟩ := labels.inLine
  have inSource := isIn.stop_le
  unfold Span.LiesIn
  omega

namespace Diagnostic

/-- **Labels inside their source.** Every label starts in its source. It lies in it as a whole,
apart from a single octet behind the end, exactly if that holds of the span that the type-checker
gave, where that span starts in the source. -/
theorem liesIn_withSource_iff (diagnostic : Diagnostic) (text : String) :
    (∀ label, (diagnostic.withSource text).place = some label →
      label.offset ≤ text.utf8ByteSize) ∧
    ((∀ label, (diagnostic.withSource text).place = some label →
      label.LiesIn text.utf8ByteSize) ↔
        ∀ span, diagnostic.span = some span → span.offset ≤ text.utf8ByteSize →
          span.LiesIn text.utf8ByteSize) := by
  change (∀ label, diagnostic.placeIn? text = some label → _) ∧
    ((∀ label, diagnostic.placeIn? text = some label → _) ↔ _)
  by_cases hasSpan : diagnostic.HasSpanIn text
  · obtain ⟨span, given, starts⟩ := hasSpan
    rw [placeIn?_of_span given starts, given]
    simp only [Option.some.injEq, forall_eq', Span.LiesIn]
    omega
  · have byPosition : ∀ label, diagnostic.placeIn? text = some label →
        label.LiesIn text.utf8ByteSize := by
      intro label placed
      obtain ⟨number, column, -, -, labels⟩ := exists_labelsToken hasSpan placed
      exact labels.liesIn
    refine ⟨fun label placed => (byPosition label placed).1, iff_of_true byPosition ?_⟩
    exact fun span given starts => absurd ⟨span, given, starts⟩ hasSpan

/-- A span that starts in a source and goes on behind its end. -/
def overlongReport : Diagnostic := { (error "e").locatedAt "a.ts" 1 1 with span := some ⟨6, 100⟩ }

/-- Not every label lies in its source. -/
theorem not_forall_liesIn_withSource :
    ¬∀ (diagnostic : Diagnostic) (text : String) (label : Span),
      (diagnostic.withSource text).place = some label → label.LiesIn text.utf8ByteSize := by
  intro always
  have outside := always overlongReport "const a = 1;" ⟨6, 100⟩ (by decide +kernel)
  unfold Span.LiesIn at outside
  revert outside
  decide +kernel

end Diagnostic

end BundleFinish
