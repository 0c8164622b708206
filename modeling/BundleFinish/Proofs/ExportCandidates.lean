import BundleFinish.Proofs.TrailingExports

/-! # Candidates for the trailing export

Which statement the scan takes and what it leaves, said without the scan. A candidate is a place
where a statement starts and the target is assigned to, with nothing but white space behind the
first semicolon of what is assigned (`IsCandidate`). A text without a candidate stays as it is, and
otherwise the first candidate and everything behind it make way for a `return` of its expression
(`Returned`, `returnTrailingExport_eq_iff`). -/

namespace BundleFinish.Umd

open Text Pattern Matcher

/-! ## Candidates -/

/-- A statement may start behind a text when going back over white space comes to the start of the
text, to a semicolon or to a brace, or crosses a newline. -/
def OpensStatement (before : List Char) : Prop :=
  ∃ earlier gap, before = earlier ++ gap ∧ isBlankText gap = true ∧
    (earlier = [] ∨ '\n' ∈ gap ∨ ∃ c, earlier.getLast? = some c ∧ (c = ';' ∨ c = '{' ∨ c = '}'))

/-- A place of a text behind `before` where a statement assigns to the target: only white space
stands between the target and the sign, and behind the sign is what is assigned. -/
structure IsAssignment (text before assigned : List Char) : Prop where
  split : ∃ gap, isBlankText gap = true ∧ text = before ++ exportTarget ++ gap ++ '=' :: assigned
  opens : OpensStatement before

/-- An assignment that ends the text. -/
structure IsCandidate (text before assigned : List Char) : Prop
    extends IsAssignment text before assigned where
  /-- The assigned text begins with a character that is not a semicolon. -/
  begins : ∃ c, assigned.head? = some c ∧ c ≠ ';'
  /-- Only white space follows the first semicolon. -/
  closed : ∀ part back, assigned = part ++ ';' :: back → ';' ∉ part → isBlankText back = true

/-- **What becomes of a text**: it stays as it is without a candidate; otherwise a `return` of the
expression takes the place of everything from the first candidate on. -/
inductive Returned (text : List Char) : List Char → Prop
  | unchanged (none : ∀ before assigned, ¬IsCandidate text before assigned) : Returned text text
  | first {before assigned : List Char} (candidate : IsCandidate text before assigned)
      (least : ∀ earlier later, IsCandidate text earlier later → before.length ≤ earlier.length) :
      Returned text (before ++ "return ".toList ++ writtenExpression (expressionPart assigned)
        ++ [';'])

/-- A statement may start behind a separator, and behind white space where it may start in front of
that. -/
theorem opensStatement_concat_iff (before : List Char) (c : Char) :
    OpensStatement (before ++ [c]) ↔
      isSeparator c = true ∨ (isBlank c = true ∧ OpensStatement before) := by
  constructor
  · rintro ⟨earlier, gap, split, blanks, opens⟩
    rcases List.eq_nil_or_concat gap with rfl | ⟨gap, d, rfl⟩
    · rw [List.append_nil] at split
      subst split
      rcases opens with none | newline | ⟨d, last, separator⟩
      · simp at none
      · cases newline
      · obtain rfl : c = d := by simpa using last
        exact .inl (by rcases separator with rfl | rfl | rfl <;> rfl)
    · rw [List.concat_eq_append, ← List.append_assoc] at split
      obtain ⟨rfl, last⟩ := List.append_inj' split rfl
      obtain rfl : c = d := by simpa using last
      have both : isBlankText gap = true ∧ isBlank c = true := by
        simpa [isBlankText] using blanks
      by_cases newline : c = '\n'
      · exact .inl (by subst newline; rfl)
      · refine .inr ⟨both.2, earlier, gap, rfl, both.1, opens.imp_right (.imp_left ?_)⟩
        intro member
        simpa [Ne.symm newline] using member
  · rintro (separator | ⟨blank, earlier, gap, rfl, blanks, opens⟩)
    · simp only [isSeparator, Bool.or_eq_true, beq_iff_eq, or_assoc] at separator
      by_cases newline : c = '\n'
      · subst newline
        exact ⟨before, ['\n'], rfl, rfl, .inr (.inl List.mem_cons_self)⟩
      · refine ⟨before ++ [c], [], by simp, rfl, .inr (.inr ⟨c, by simp, ?_⟩)⟩
        simpa [newline] using separator
    · refine ⟨earlier, gap ++ [c], by simp, ?_, ?_⟩
      · simpa [isBlankText, blank] using blanks
      · exact opens.imp_right (.imp_left (List.mem_append_left [c]))

/-- The scan of the text before a place finds out whether a statement may start there. -/
theorem startsStatement_iff (backward : List Char) :
    startsStatement backward = true ↔ OpensStatement backward.reverse := by
  induction backward with
  | nil => exact iff_of_true rfl ⟨[], [], rfl, rfl, .inl rfl⟩
  | cons c backward ih =>
    rw [List.reverse_cons, opensStatement_concat_iff, ← ih]
    simp [startsStatement, isSeparator]

/-- The assigned text is closed when only white space follows the first semicolon. -/
theorem isClosed_iff (assigned : List Char) :
    isClosed assigned = true ↔
      ∀ part back, assigned = part ++ ';' :: back → ';' ∉ part → isBlankText back = true := by
  induction assigned with
  | nil => simp
  | cons c assigned ih =>
    by_cases semicolon : c = ';'
    · subst semicolon
      constructor
      · rintro closed (_ | ⟨d, part⟩) back split free
        · cases split
          exact closed
        · cases split
          exact absurd List.mem_cons_self free
      · intro all
        exact all [] assigned rfl List.not_mem_nil
    · rw [isClosed_cons semicolon, ih]
      constructor
      · rintro all (_ | ⟨d, part⟩) back split free
        · cases split
          exact absurd rfl semicolon
        · cases split
          exact all part back rfl fun member => free (List.mem_cons_of_mem _ member)
      · intro all part back split free
        exact all (c :: part) back (by rw [split]; rfl) (by simp [free, Ne.symm semicolon])

/-- Something stands before the first semicolon when the text begins with another character. -/
theorem expressionPart_ne_nil_iff (assigned : List Char) :
    expressionPart assigned ≠ [] ↔ ∃ c, assigned.head? = some c ∧ c ≠ ';' := by
  rcases assigned with _ | ⟨c, assigned⟩
  · simp
  · by_cases semicolon : c = ';' <;> simp [semicolon]

/-- Behind the white space in front of it stands the sign. -/
theorem dropWhile_isBlank_sign {gap : List Char} (blank : isBlankText gap = true)
    (assigned : List Char) : (gap ++ '=' :: assigned).dropWhile isBlank = '=' :: assigned := by
  rw [List.dropWhile_append_of_pos (isBlankText_iff.mp blank)]
  exact List.dropWhile_cons_of_neg (by decide)

/-- An export is a target, white space, the sign, and an expression that nothing is left behind. -/
theorem exportHere?_eq_some_iff (text expression : List Char) :
    exportHere? text = some expression ↔
      ∃ gap assigned, isBlankText gap = true ∧ text = exportTarget ++ gap ++ '=' :: assigned ∧
        (expressionPart assigned ≠ [] ∧ isClosed assigned = true) ∧
        expression = writtenExpression (expressionPart assigned) := by
  constructor
  · intro here
    rw [exportHere?] at here
    split_ifs at here with target
    obtain ⟨behind, rfl⟩ := List.isPrefixOf_iff_prefix.mp target
    rw [List.drop_left] at here
    split at here
    next assigned found =>
      rw [expressionOf?_eq] at here
      split_ifs at here with fits
      refine ⟨behind.takeWhile isBlank, assigned, ?_, ?_, fits, (Option.some.inj here).symm⟩
      · exact isBlankText_iff.mpr fun _ => List.mem_takeWhile_imp
      · rw [← found, List.append_assoc, List.takeWhile_append_dropWhile]
    next => cases here
  · rintro ⟨gap, assigned, blank, rfl, fits, rfl⟩
    rw [exportHere?, List.append_assoc, if_pos (List.isPrefixOf_iff_prefix.mpr ⟨_, rfl⟩),
      List.drop_left, dropWhile_isBlank_sign blank]
    exact (expressionOf?_eq assigned).trans (if_pos fits)

/-- A candidate is an export that starts where a statement may. -/
theorem exists_isCandidate_iff (before rest expression : List Char) :
    (∃ assigned, IsCandidate (before ++ rest) before assigned ∧
        expression = writtenExpression (expressionPart assigned)) ↔
      startsStatement before.reverse = true ∧ exportHere? rest = some expression := by
  rw [startsStatement_iff, List.reverse_reverse, exportHere?_eq_some_iff]
  constructor
  · rintro ⟨assigned, ⟨⟨⟨gap, blank, split⟩, opens⟩, begins, closed⟩, same⟩
    rw [List.append_assoc, List.append_assoc, List.append_cancel_left_eq,
      ← List.append_assoc] at split
    exact ⟨opens, gap, assigned, blank, split,
      ⟨(expressionPart_ne_nil_iff assigned).mpr begins, (isClosed_iff assigned).mpr closed⟩, same⟩
  · rintro ⟨opens, gap, assigned, blank, rfl, ⟨begins, closed⟩, same⟩
    exact ⟨assigned, ⟨⟨⟨gap, blank, by simp⟩, opens⟩, (expressionPart_ne_nil_iff assigned).mp begins,
      (isClosed_iff assigned).mp closed⟩, same⟩

/-- Where the scan finds nothing, no export starts. -/
theorem none_of_trailingExportFrom?_eq_none {before rest : List Char}
    (none : trailingExportFrom? before rest = none) (front back : List Char)
    (split : rest = front ++ back) (starts : startsStatement (front.reverse ++ before) = true) :
    exportHere? back = .none := by
  induction rest generalizing before front with
  | nil =>
    obtain ⟨rfl, rfl⟩ := List.append_eq_nil_iff.mp split.symm
    rfl
  | cons c rest ih =>
    rw [trailingExportFrom?] at none
    split at none
    next => cases none
    next here =>
      rcases front with _ | ⟨d, front⟩
      · rw [List.nil_append] at split
        subst split
        exact (if_pos starts).symm.trans here
      · cases split
        exact ih none front rfl (by simpa using starts)

/-- What the scan finds is an export, and none starts earlier. -/
theorem exists_of_trailingExportFrom?_eq_some {before rest lead expression : List Char}
    (found : trailingExportFrom? before rest = some (lead, expression)) :
    ∃ front back, rest = front ++ back ∧ lead = before.reverse ++ front ∧
      (startsStatement (front.reverse ++ before) = true ∧ exportHere? back = some expression) ∧
      ∀ front' back', rest = front' ++ back' → front'.length < front.length →
        startsStatement (front'.reverse ++ before) = true → exportHere? back' = none := by
  induction rest generalizing before with
  | nil => cases found
  | cons c rest ih =>
    rw [trailingExportFrom?] at found
    split at found
    next other here =>
      cases found
      split_ifs at here with starts
      exact ⟨[], c :: rest, rfl, by simp, ⟨starts, here⟩, fun front' _ _ shorter =>
        absurd shorter front'.length.not_lt_zero⟩
    next here =>
      obtain ⟨front, back, rfl, rfl, placed, first⟩ := ih found
      refine ⟨c :: front, back, rfl, by simp, by simpa using placed, ?_⟩
      rintro (_ | ⟨d, front'⟩) back' split shorter starts
      · rw [List.nil_append] at split
        subst split
        exact (if_pos starts).symm.trans here
      · obtain ⟨rfl, tails⟩ := List.cons.inj split
        exact first front' back' tails (Nat.lt_of_succ_lt_succ shorter) (by simpa using starts)

/-- Without a trailing export there is no candidate. -/
theorem not_isCandidate_of_trailingExport?_eq_none {text : List Char}
    (none : trailingExport? text = none) (before assigned : List Char) :
    ¬IsCandidate text before assigned := by
  intro candidate
  obtain ⟨gap, -, split⟩ := candidate.split
  rw [List.append_assoc, List.append_assoc] at split
  subst split
  obtain ⟨starts, here⟩ := (exists_isCandidate_iff before _ _).mp ⟨assigned, candidate, rfl⟩
  have nothing := none_of_trailingExportFrom?_eq_none none before _ rfl (by simpa using starts)
  rw [nothing] at here
  cases here

/-- The trailing export of a text is its first candidate. -/
theorem exists_isCandidate_of_trailingExport?_eq_some {text before expression : List Char}
    (found : trailingExport? text = some (before, expression)) :
    ∃ assigned, IsCandidate text before assigned ∧
      expression = writtenExpression (expressionPart assigned) ∧
      ∀ earlier later, IsCandidate text earlier later → before.length ≤ earlier.length := by
  obtain ⟨front, back, rfl, lead, ⟨starts, here⟩, first⟩ :=
    exists_of_trailingExportFrom?_eq_some found
  obtain rfl : before = front := lead
  rw [List.append_nil] at starts
  obtain ⟨assigned, candidate, same⟩ := (exists_isCandidate_iff before back expression).mpr
    ⟨starts, here⟩
  refine ⟨assigned, candidate, same, fun earlier later other => ?_⟩
  by_contra shorter
  obtain ⟨gap, -, split⟩ := other.split
  rw [List.append_assoc, List.append_assoc] at split
  obtain ⟨starts', here'⟩ := (exists_isCandidate_iff earlier _ _).mp ⟨later, split ▸ other, rfl⟩
  have nothing := first earlier _ split (by simpa using shorter) (by simpa using starts')
  rw [nothing] at here'
  cases here'

/-- What is assigned at a place is determined by the text. -/
theorem eq_of_split {before before' gap gap' assigned assigned' : List Char}
    (blank : isBlankText gap = true) (blank' : isBlankText gap' = true)
    (split : before ++ exportTarget ++ gap ++ '=' :: assigned =
      before' ++ exportTarget ++ gap' ++ '=' :: assigned')
    (same : before.length = before'.length) : before = before' ∧ assigned = assigned' := by
  simp only [List.append_assoc] at split
  obtain ⟨here, rest⟩ := List.append_inj split same
  have behind := congrArg (List.dropWhile isBlank) (List.append_cancel_left rest)
  rw [dropWhile_isBlank_sign blank, dropWhile_isBlank_sign blank'] at behind
  exact ⟨here, (List.cons.inj behind).2⟩

/-- Two assignments at one place are one. -/
theorem IsAssignment.unique {text before before' assigned assigned' : List Char}
    (assignment : IsAssignment text before assigned)
    (other : IsAssignment text before' assigned') (same : before.length = before'.length) :
    before = before' ∧ assigned = assigned' := by
  obtain ⟨gap, blank, split⟩ := assignment.split
  obtain ⟨gap', blank', split'⟩ := other.split
  exact eq_of_split blank blank' (split.symm.trans split') same

/-- A text becomes one text only. -/
theorem Returned.unique {text written written' : List Char} (one : Returned text written)
    (other : Returned text written') : written = written' := by
  cases one with
  | unchanged none =>
    cases other with
    | unchanged => rfl
    | first candidate => exact absurd candidate (none _ _)
  | first candidate least =>
    cases other with
    | unchanged none => exact absurd candidate (none _ _)
    | first candidate' least' =>
      obtain ⟨rfl, rfl⟩ := candidate.toIsAssignment.unique candidate'.toIsAssignment
        (le_antisymm (least _ _ candidate') (least' _ _ candidate))
      rfl

/-- The text that the scan leaves is what becomes of the text. -/
theorem returned_returnExport (text : List Char) : Returned text (returnExport text) := by
  rw [returnExport]
  rcases found : trailingExport? text with _ | ⟨before, expression⟩
  · exact .unchanged (not_isCandidate_of_trailingExport?_eq_none found)
  · obtain ⟨assigned, candidate, rfl, least⟩ :=
      exists_isCandidate_of_trailingExport?_eq_some found
    exact .first candidate least

/-- **Returning the trailing export is exactly what becomes of the text.** It is the replacement of
the first match of the pattern, whose matcher is what the pattern means, with its preferences. -/
theorem returnTrailingExport_eq_iff (text written : String) :
    (returnTrailingExport text = written ↔ Returned text.toList written.toList) ∧
      compile exportPattern = .ok ⟨exportPattern, exportMatcher.plain⟩ ∧
      returnTrailingExport text =
        String.ofList (exportMatcher.replaceFirst exportReplacement text.toList) := by
  refine ⟨⟨?_, fun returned => ?_⟩, compile_exportPattern, ?_⟩
  · rintro rfl
    rw [returnTrailingExport, String.toList_ofList]
    exact returned_returnExport text.toList
  · rw [returnTrailingExport, (returned_returnExport text.toList).unique returned,
      String.ofList_toList]
  · rw [returnTrailingExport, returnExport_eq_replaceFirst]

example : returnTrailingExport "module.exports = a; b\n\x7b module.exports =\n  f( c )\n;\n" =
    "module.exports = a; b\n\x7b return f( c );" := by decide

/-! ## The parts of a text with a trailing export -/

/-- The trailing export of a text, with the parts that the text falls into around it. -/
structure TrailingStatement (text : List Char) where
  before : List Char
  /-- White space in front of the sign. -/
  gap : List Char
  /-- White space in front of the expression. -/
  front : List Char
  expression : List Char
  /-- White space and at most one semicolon behind the expression. -/
  trail : List Char
  found : trailingExport? text = some (before, expression)
  split : text = before ++ exportTarget ++ gap ++ '=' :: (front ++ expression ++ trail)
  blank_gap : isBlankText gap = true
  blank_front : isBlankText front = true
  blank_trail : isBlankText (trail.erase ';') = true

/-- Trimming takes white space away at both ends. -/
theorem exists_trimChars (text : List Char) :
    ∃ front back, isBlankText front = true ∧ isBlankText back = true ∧
      text = front ++ trimChars text ++ back := by
  refine ⟨text.takeWhile isBlank, ((text.dropWhile isBlank).reverse.takeWhile isBlank).reverse,
    isBlankText_iff.mpr fun _ => List.mem_takeWhile_imp, ?_, ?_⟩
  · exact isBlankText_iff.mpr fun _ member =>
      List.mem_takeWhile_imp (List.mem_reverse.mp member)
  · rw [trimChars, trimEndChars, List.append_assoc, ← List.reverse_append,
      List.takeWhile_append_dropWhile, List.reverse_reverse, List.takeWhile_append_dropWhile]

/-- The expression is written without white space around it. -/
theorem exists_writtenExpression {part : List Char} (some : part ≠ []) :
    ∃ front back, isBlankText front = true ∧ isBlankText back = true ∧
      part = front ++ writtenExpression part ++ back := by
  by_cases blank : isBlankText part = true
  · obtain ⟨front, last, rfl⟩ := (List.eq_nil_or_concat part).resolve_left some
    rw [writtenExpression, if_pos blank]
    refine ⟨front, [], ?_, rfl, by simp⟩
    simp only [List.concat_eq_append, isBlankText, List.all_append, Bool.and_eq_true] at blank
    exact blank.1
  · rw [writtenExpression, if_neg blank]
    exact exists_trimChars part

/-- A trimmed text does not begin with white space. -/
theorem isBlank_of_trimChars_eq_cons {text rest : List Char} {c : Char}
    (trimmed : trimChars text = c :: rest) : isBlank c = false := by
  induction text with
  | nil => cases trimmed
  | cons d text ih =>
    by_cases blank : isBlank d = true
    · exact ih (trimChars_cons_of_isBlank blank ▸ trimmed)
    · rw [Bool.not_eq_true] at blank
      rw [trimChars_cons_of_not_isBlank blank] at trimmed
      exact (List.cons.inj trimmed).1 ▸ blank

/-- An expression that begins with white space is that one character. -/
theorem eq_nil_of_writtenExpression_eq_cons {part rest : List Char} {c : Char}
    (written : writtenExpression part = c :: rest) (blank : isBlank c = true) : rest = [] := by
  rw [writtenExpression] at written
  split_ifs at written with all
  · rcases last : part.getLast? with _ | d
    · rw [last] at written
      cases written
    · rw [last] at written
      exact (List.cons.inj written).2.symm
  · rw [isBlank_of_trimChars_eq_cons written] at blank
    cases blank

/-- What is assigned falls into the expression and white space with at most one semicolon. -/
theorem exists_parts_of_isClosed {assigned : List Char} (some : expressionPart assigned ≠ [])
    (closed : isClosed assigned = true) :
    ∃ front trail, isBlankText front = true ∧ isBlankText (trail.erase ';') = true ∧
      assigned = front ++ writtenExpression (expressionPart assigned) ++ trail := by
  obtain ⟨front, back, blank, blank', part⟩ := exists_writtenExpression some
  have whole : expressionPart assigned ++ assigned.dropWhile (· != ';') = assigned :=
    List.takeWhile_append_dropWhile
  refine ⟨front, back ++ assigned.dropWhile (· != ';'), blank, ?_, ?_⟩
  · have free : ';' ∉ back := fun member =>
      absurd (isBlankText_iff.mp blank' _ member) (by decide)
    rcases rest : assigned.dropWhile (· != ';') with _ | ⟨c, others⟩
    · rwa [List.append_nil, List.erase_of_not_mem free]
    · have first := List.head_dropWhile_not (· != ';') (l := assigned) (by simp [rest])
      obtain rfl : c = ';' := by simpa [rest] using first
      rw [isClosed, rest] at closed
      rw [List.erase_append_right _ free, List.erase_cons_head, isBlankText, List.all_append]
      exact Bool.and_eq_true_iff.mpr ⟨blank', closed⟩
  · rw [← List.append_assoc, ← part, whole]

/-- A trailing export that was found comes with its parts. -/
theorem nonempty_trailingStatement_of_isSome {text : List Char}
    (found : (trailingExport? text).isSome = true) : Nonempty (TrailingStatement text) := by
  obtain ⟨⟨before, expression⟩, found⟩ := Option.isSome_iff_exists.mp found
  obtain ⟨assigned, candidate, same, -⟩ := exists_isCandidate_of_trailingExport?_eq_some found
  obtain ⟨gap, blank, split⟩ := candidate.split
  obtain ⟨front, trail, blank', ends, parts⟩ :=
    exists_parts_of_isClosed ((expressionPart_ne_nil_iff assigned).mpr candidate.begins)
      ((isClosed_iff assigned).mpr candidate.closed)
  rw [← same] at parts
  exact ⟨before, gap, front, expression, trail, found, parts ▸ split, blank, blank', ends⟩

/-- A text with a candidate has a trailing export. -/
theorem IsCandidate.nonempty_trailingStatement {text before assigned : List Char}
    (candidate : IsCandidate text before assigned) : Nonempty (TrailingStatement text) := by
  refine nonempty_trailingStatement_of_isSome ?_
  by_contra none
  rw [Option.not_isSome_iff_eq_none] at none
  exact not_isCandidate_of_trailingExport?_eq_none none before assigned candidate

namespace TrailingStatement

variable {text : List Char}

/-- The statement is the first candidate. -/
theorem isCandidate (statement : TrailingStatement text) :
    IsCandidate text statement.before
      (statement.front ++ statement.expression ++ statement.trail) ∧
    ∀ earlier assigned, IsCandidate text earlier assigned →
      statement.before.length ≤ earlier.length := by
  obtain ⟨assigned, candidate, -, least⟩ :=
    exists_isCandidate_of_trailingExport?_eq_some statement.found
  obtain ⟨gap, blank, split⟩ := candidate.split
  obtain ⟨-, rfl⟩ :=
    eq_of_split blank statement.blank_gap (split.symm.trans statement.split) rfl
  exact ⟨candidate, least⟩

/-- An expression that begins with white space is one character. -/
theorem eq_nil_of_isBlank (statement : TrailingStatement text) {c : Char} {rest : List Char}
    (begins : statement.expression = c :: rest) (blank : isBlank c = true) : rest = [] := by
  obtain ⟨assigned, -, written, -⟩ :=
    exists_isCandidate_of_trailingExport?_eq_some statement.found
  exact eq_nil_of_writtenExpression_eq_cons (written.symm.trans begins) blank

/-- The text up to the expression. -/
def lead (statement : TrailingStatement text) : List Char :=
  statement.before ++ exportTarget ++ statement.gap ++ '=' :: statement.front

/-- The expression stands between the text up to it and the end of the statement. -/
theorem split_lead (statement : TrailingStatement text) :
    text = statement.lead ++ statement.expression ++ statement.trail :=
  statement.split.trans (by simp [lead])

/-- A `return` of the expression takes the place of the statement. -/
theorem returnExport_eq (statement : TrailingStatement text) :
    returnExport text =
      statement.before ++ "return ".toList ++ statement.expression ++ [';'] := by
  rw [returnExport, statement.found]

/-- A text is changed exactly when it has a trailing export. -/
theorem nonempty_iff : Nonempty (TrailingStatement text) ↔ returnExport text ≠ text := by
  constructor
  · rintro ⟨statement⟩ same
    have both := (statement.returnExport_eq.symm.trans same).trans statement.split
    simp only [List.append_assoc, List.append_cancel_left_eq] at both
    have heads : some 'r' = some 'm' := congrArg List.head? both
    exact absurd heads (by decide)
  · intro changed
    refine nonempty_trailingStatement_of_isSome ?_
    by_contra none
    rw [Option.not_isSome_iff_eq_none] at none
    exact changed (by rw [returnExport, none])

end TrailingStatement

end BundleFinish.Umd

