import BundleFinish.Proofs.ExportCandidates

/-! # The line of the returned expression

A script ends the statement `return` at a line terminator, so the returned expression has to begin
on the line of its `return`. White space behind the sign is not taken into the expression, but a
comment is, and with it the line terminators in it and behind it. The expression begins on the line
of its `return` exactly when only white space and comments on that line stand in front of its first
word (`beginsOnLine_iff`). -/

namespace BundleFinish.Umd

open Text

/-! ## White space and comments of a script -/

/-- The characters that end a line of a script. -/
def isLineTerminator (c : Char) : Bool := c == '\n' || c == '\r' || c == '\u2028' || c == '\u2029'

/-- The white space of a script, line terminators among it: that of a text, with the byte order mark
and without the next-line control. -/
def isScriptSpace (c : Char) : Bool := c == '\ufeff' || (isBlank c && c != '\u0085')

/-- Where a reader of a script is: between words, on the star of an opening mark, inside a comment
up to the end of a line, inside a comment up to a closing mark, or on the slash of that mark. -/
inductive Reading where
  | between
  | opening
  | line
  | block
  | closing
  deriving DecidableEq, Repr

/-- Where the reader is behind a character, given what follows that; a word begins at the character
when the reader is nowhere. -/
def Reading.next (c : Char) (following : Option Char) : Reading → Option Reading
  | between =>
    if isScriptSpace c then some between
    else if c = '/' ∧ following = some '/' then some line
    else if c = '/' ∧ following = some '*' then some opening
    else none
  | opening => some block
  | line => some (if isLineTerminator c then between else line)
  | block => some (if c = '*' ∧ following = some '/' then closing else block)
  | closing => some between

/-- White space and comments, and the rest of the script from its first word on. -/
def splitScript : Reading → List Char → List Char × List Char
  | _, [] => ([], [])
  | reading, c :: rest =>
    match reading.next c rest.head? with
    | some next => (c :: (splitScript next rest).1, (splitScript next rest).2)
    | none => ([], c :: rest)

/-- White space and closed comments without a line terminator. -/
inductive IsInline : List Char → Prop
  | nil : IsInline []
  | space {c : Char} {rest : List Char} (space : isScriptSpace c = true)
      (inline : isLineTerminator c = false) (others : IsInline rest) : IsInline (c :: rest)
  | comment {body rest : List Char} (unclosed : ¬['*', '/'] <:+: body)
      (inline : ∀ c ∈ body, isLineTerminator c = false) (others : IsInline rest) :
      IsInline ('/' :: '*' :: (body ++ '*' :: '/' :: rest))

/-- What stands between a `return` and the first word of its expression. -/
def TrailingStatement.margin {text : List Char} (statement : TrailingStatement text) : List Char :=
  (splitScript .between statement.expression).1

/-- The expression from its first word on. -/
def TrailingStatement.code {text : List Char} (statement : TrailingStatement text) : List Char :=
  (splitScript .between statement.expression).2

/-- The expression begins on the line of its `return`, if it has a word at all. -/
def TrailingStatement.BeginsOnLine {text : List Char} (statement : TrailingStatement text) : Prop :=
  statement.code ≠ [] → ∀ c ∈ ' ' :: statement.margin, isLineTerminator c = false

/-! ## Reading white space and comments -/

section

variable {c : Char} {rest text : List Char}

/-- Nothing is lost. -/
theorem splitScript_append (reading : Reading) (text : List Char) :
    (splitScript reading text).1 ++ (splitScript reading text).2 = text := by
  induction text generalizing reading with
  | nil => rfl
  | cons c rest ih =>
    rw [splitScript]
    split
    next next _ => exact congrArg (c :: ·) (ih next)
    next => rfl

/-- Reading goes on behind a character. -/
theorem splitScript_cons_of_next {reading next : Reading}
    (step : reading.next c rest.head? = some next) :
    splitScript reading (c :: rest) =
      (c :: (splitScript next rest).1, (splitScript next rest).2) := by
  rw [splitScript, step]

/-- A comment up to the end of a line has a line terminator in front of the next word. -/
theorem exists_lineTerminator_of_line (word : (splitScript .line text).2 ≠ []) :
    ∃ c ∈ (splitScript .line text).1, isLineTerminator c = true := by
  induction text with
  | nil => exact absurd rfl word
  | cons c rest ih =>
    have step : Reading.next c rest.head? .line =
      some (if isLineTerminator c then .between else .line) := rfl
    by_cases terminator : isLineTerminator c = true
    · rw [if_pos terminator] at step
      rw [splitScript_cons_of_next step]
      exact ⟨c, List.mem_cons_self, terminator⟩
    · rw [if_neg terminator] at step
      rw [splitScript_cons_of_next step] at word ⊢
      obtain ⟨d, member, ends⟩ := ih word
      exact ⟨d, List.mem_cons_of_mem c member, ends⟩

/-- A comment in front of a word is closed by the first closing mark. -/
theorem exists_close_of_block (word : (splitScript .block text).2 ≠ []) :
    ∃ body behind, text = body ++ '*' :: '/' :: behind ∧ ¬['*', '/'] <:+: body ∧
      splitScript .block text =
        (body ++ '*' :: '/' :: (splitScript .between behind).1, (splitScript .between behind).2) := by
  induction text with
  | nil => exact absurd rfl word
  | cons c rest ih =>
    have step : Reading.next c rest.head? .block =
      some (if c = '*' ∧ rest.head? = some '/' then .closing else .block) := rfl
    by_cases mark : c = '*' ∧ rest.head? = some '/'
    · obtain ⟨behind, rfl⟩ := List.head?_eq_some_iff.mp mark.2
      rw [if_pos mark] at step
      obtain ⟨rfl, -⟩ := mark
      refine ⟨[], behind, rfl, by simp, ?_⟩
      have closed : Reading.next '/' behind.head? .closing = some .between := rfl
      rw [splitScript_cons_of_next step, splitScript_cons_of_next closed]
      rfl
    · rw [if_neg mark] at step
      rw [splitScript_cons_of_next step] at word ⊢
      obtain ⟨body, behind, rfl, unclosed, parts⟩ := ih word
      refine ⟨c :: body, behind, rfl, ?_, by rw [parts]; rfl⟩
      rw [List.infix_cons_iff]
      rintro (start | within)
      · obtain ⟨rfl, slash⟩ := List.cons_prefix_cons.mp start
        obtain ⟨others, rfl⟩ := slash
        exact mark ⟨rfl, rfl⟩
      · exact unclosed within

/-- Without a line terminator in front of the first word there are only white space and closed
comments. -/
theorem isInline_of_forall (word : (splitScript .between text).2 ≠ [])
    (inline : ∀ c ∈ (splitScript .between text).1, isLineTerminator c = false) :
    IsInline (splitScript .between text).1 := by
  -- A comment is read as a whole, so the induction is on the length of the text.
  obtain ⟨size, length⟩ : ∃ size, text.length = size := ⟨_, rfl⟩
  induction size using Nat.strong_induction_on generalizing text with
  | _ size ih =>
    rcases text with _ | ⟨c, rest⟩
    · exact .nil
    · by_cases space : isScriptSpace c = true
      · have step : Reading.next c rest.head? .between = some .between := if_pos space
        rw [splitScript_cons_of_next step] at word inline ⊢
        obtain ⟨here, others⟩ := List.forall_mem_cons.mp inline
        exact .space space here (ih rest.length (by simp [← length]) word others rfl)
      · by_cases line : c = '/' ∧ rest.head? = some '/'
        · have step : Reading.next c rest.head? .between = some .line := by
            rw [Reading.next, if_neg space, if_pos line]
          rw [splitScript_cons_of_next step] at word inline
          obtain ⟨d, member, ends⟩ := exists_lineTerminator_of_line word
          rw [inline d (List.mem_cons_of_mem c member)] at ends
          cases ends
        · by_cases block : c = '/' ∧ rest.head? = some '*'
          · have step : Reading.next c rest.head? .between = some .opening := by
              rw [Reading.next, if_neg space, if_neg line, if_pos block]
            obtain ⟨others, rfl⟩ := List.head?_eq_some_iff.mp block.2
            obtain ⟨rfl, -⟩ := block
            have opened : Reading.next '*' others.head? .opening = some .block := rfl
            rw [splitScript_cons_of_next step, splitScript_cons_of_next opened] at word inline ⊢
            obtain ⟨body, behind, rfl, unclosed, parts⟩ := exists_close_of_block word
            rw [parts] at word inline ⊢
            refine .comment unclosed (fun d member => inline d (by simp [member]))
              (ih behind.length ?_ word (fun d member => inline d (by simp [member])) rfl)
            simp at length
            omega
          · have step : Reading.next c rest.head? .between = none := by
              rw [Reading.next, if_neg space, if_neg line, if_neg block]
            rw [splitScript, step]
            exact .nil

/-- White space and comments on one line have no line terminator. -/
theorem IsInline.forall (inline : IsInline text) : ∀ c ∈ text, isLineTerminator c = false := by
  induction inline with
  | nil => simp
  | space _ here _ ih => exact List.forall_mem_cons.mpr ⟨here, ih⟩
  | comment _ here _ ih =>
    intro c member
    simp only [List.mem_cons, List.mem_append] at member
    rcases member with rfl | rfl | member | rfl | rfl | member
    · rfl
    · rfl
    · exact here c member
    · rfl
    · rfl
    · exact ih c member

/-- A word that is no comment begins at once. -/
theorem splitScript_of_ne (shown : isScriptSpace c = false) (other : c ≠ '/') :
    splitScript .between (c :: rest) = ([], c :: rest) := by
  have step : Reading.next c rest.head? .between = none := by simp [Reading.next, shown, other]
  rw [splitScript, step]

end

/-- An expression with a word begins with it, unless it begins with a comment or with the byte order
mark. -/
theorem TrailingStatement.margin_eq_nil {text : List Char} (statement : TrailingStatement text)
    (word : statement.code ≠ []) (comment : statement.expression.head? ≠ some '/')
    (mark : statement.expression.head? ≠ some '\ufeff') : statement.margin = [] := by
  rcases begins : statement.expression with _ | ⟨c, rest⟩
  · rw [TrailingStatement.margin, begins]
    rfl
  · rw [begins, List.head?_cons, ne_eq, Option.some_inj] at comment mark
    by_cases space : isScriptSpace c = true
    · -- White space in front of an expression is not part of it, so it is all that there is.
      have blank : isBlank c = true := by
        have either : c = '\ufeff' ∨ (isBlank c = true ∧ ¬c = '\u0085') := by
          simpa [isScriptSpace] using space
        exact (either.resolve_left mark).1
      obtain rfl := statement.eq_nil_of_isBlank begins blank
      have step : Reading.next c ([] : List Char).head? .between = some .between := if_pos space
      rw [TrailingStatement.code, begins, splitScript_cons_of_next step] at word
      exact absurd rfl word
    · rw [Bool.not_eq_true] at space
      rw [TrailingStatement.margin, begins, splitScript_of_ne space comment]

/-- **The returned expression begins on the line of its `return` exactly when only white space and
closed comments on that line stand in front of its first word.** The white space behind the sign of
the assignment, with its line terminators, is gone; so an expression without a comment in front of
it begins right behind the `return`. -/
theorem beginsOnLine_iff (text : List Char) :
    (returnExport text ≠ text ↔ Nonempty (TrailingStatement text)) ∧
      ∀ statement : TrailingStatement text,
        returnExport text = statement.before ++ "return".toList ++ ' ' :: statement.margin ++
            statement.code ++ [';'] ∧
          (statement.BeginsOnLine ↔ (statement.code ≠ [] → IsInline statement.margin)) ∧
          (statement.code ≠ [] → statement.expression.head? ≠ some '/' →
            statement.expression.head? ≠ some '\ufeff' → statement.margin = []) := by
  refine ⟨TrailingStatement.nonempty_iff.symm, fun statement => ⟨?_, ?_, ?_⟩⟩
  · have whole : statement.margin ++ statement.code = statement.expression :=
      splitScript_append .between statement.expression
    rw [statement.returnExport_eq, ← whole]
    simp
  · refine forall_congr' fun word => ⟨fun inline => ?_, fun inline => ?_⟩
    · exact isInline_of_forall word (List.forall_mem_cons.mp inline).2
    · exact List.forall_mem_cons.mpr ⟨rfl, inline.forall⟩
  · exact statement.margin_eq_nil

/-- A comment up to the end of a line separates an expression from its `return`. -/
theorem not_forall_beginsOnLine :
    ¬∀ (text : List Char) (statement : TrailingStatement text), statement.BeginsOnLine := by
  intro all
  have begins := all "module.exports = // note\n  create();\n".toList
    { before := [], gap := [' '], front := [' '], expression := "// note\n  create()".toList
      trail := ";\n".toList
      found := by decide
      split := by decide
      blank_gap := by decide
      blank_front := by decide
      blank_trail := by decide }
  exact absurd (begins (by decide) '\n' (by decide)) (by decide)

end BundleFinish.Umd
