import BundleFinish.Proofs.ExportCandidates

/-! # Whether the returned statement is the only assignment

The returned expression ends at the first semicolon and at nothing else, so an earlier assignment
without a semicolon takes a later one into its expression, and a comparison with the target looks
like an assignment of what follows its first equals sign. Every assignment in front of the returned
one is ended by a semicolon; the expression is that of a single assignment exactly for the texts in
which nothing is compared there and no assignment follows (`forall_isSole_iff`). -/

namespace BundleFinish.Umd

open Text

/-- What follows the sign begins, behind white space, with another one. -/
def IsComparison (assigned : List Char) : Prop :=
  ∃ gap rest, isBlankText gap = true ∧ assigned = gap ++ '=' :: rest

/-- The expression is that of a single assignment: it does not begin with a sign, and no statement
in it assigns to the target. -/
def TrailingStatement.IsSole {text : List Char} (statement : TrailingStatement text) : Prop :=
  statement.expression.head? ≠ some '=' ∧
    ∀ inner gap rest, isBlankText gap = true →
      statement.expression = inner ++ exportTarget ++ gap ++ '=' :: rest →
      ¬OpensStatement (statement.lead ++ inner)

/-! ## Assignments behind one another -/

/-- A character that a text does not hold stands behind that text. -/
theorem exists_of_append_eq_append_cons {text behind lead rest : List Char} {c : Char}
    (split : text ++ behind = lead ++ c :: rest) (fresh : c ∉ text) :
    ∃ inner, lead = text ++ inner ∧ behind = inner ++ c :: rest := by
  rcases List.append_eq_append_iff.mp split with ⟨inner, rfl, rfl⟩ | ⟨inner, rfl, same⟩
  · exact ⟨inner, rfl, rfl⟩
  · rcases inner with _ | ⟨d, inner⟩
    · exact ⟨[], by simp, same.symm⟩
    · obtain ⟨rfl, -⟩ := List.cons.inj same
      exact absurd (List.mem_append_right lead List.mem_cons_self) fresh

/-- A character that a text does not hold stands in front of that text. -/
theorem exists_of_append_eq_cons_append {text behind lead rest : List Char} {c : Char}
    (split : text ++ behind = lead ++ c :: rest) (fresh : c ∉ behind) :
    ∃ inner, text = lead ++ c :: inner ∧ rest = inner ++ behind := by
  rcases List.append_eq_append_iff.mp split with ⟨inner, rfl, rfl⟩ | ⟨inner, rfl, same⟩
  · exact absurd (List.mem_append_right inner List.mem_cons_self) fresh
  · rcases inner with _ | ⟨d, inner⟩
    · obtain rfl : c :: rest = behind := same
      exact absurd List.mem_cons_self fresh
    · obtain ⟨rfl, rfl⟩ := List.cons.inj same
      exact ⟨inner, rfl, rfl⟩

/-- White space holds no other character. -/
theorem notMem_of_isBlankText {text : List Char} (blank : isBlankText text = true) {c : Char}
    (shown : isBlank c = false) : c ∉ text := by
  intro member
  rw [isBlankText_iff.mp blank c member] at shown
  cases shown

/-- The end of a statement holds white space and a semicolon at most. -/
theorem notMem_of_isBlankText_erase {trail : List Char}
    (blank : isBlankText (trail.erase ';') = true) {c : Char} (shown : isBlank c = false)
    (other : c ≠ ';') : c ∉ trail := fun member =>
  notMem_of_isBlankText blank shown ((List.mem_erase_of_ne other).mpr member)

/-- An assignment that starts further on starts behind the sign of the first one. -/
theorem exists_inner_of_length_lt {before gap assigned later gap' behind : List Char}
    (blank : isBlankText gap = true)
    (split : before ++ exportTarget ++ gap ++ '=' :: assigned =
      later ++ exportTarget ++ gap' ++ '=' :: behind)
    (further : before.length < later.length) :
    ∃ inner, later = before ++ exportTarget ++ gap ++ '=' :: inner ∧
      assigned = inner ++ exportTarget ++ gap' ++ '=' :: behind := by
  simp only [List.append_assoc] at split
  rcases List.append_eq_append_iff.mp split with ⟨more, rfl, rest⟩ | ⟨more, rfl, -⟩
  · rcases more with _ | ⟨c, more⟩
    · simp at further
    · -- The target has one `m` only, so the next one stands behind the sign.
      rw [exportTarget_eq] at rest
      obtain ⟨rfl, rest⟩ := List.cons.inj rest
      have fresh : 'm' ∉ "odule.exports".toList ++ gap ++ ['='] := by
        have free : 'm' ∉ gap := notMem_of_isBlankText blank (by decide)
        simp [free]
      have tails : "odule.exports".toList ++ gap ++ ['='] ++ assigned =
          more ++ 'm' :: ("odule.exports".toList ++ (gap' ++ '=' :: behind)) := by
        simpa using rest
      obtain ⟨inner, rfl, same⟩ := exists_of_append_eq_append_cons tails fresh
      exact ⟨inner, by simp [exportTarget_eq], by simpa [exportTarget_eq] using same⟩
  · rw [List.length_append] at further
    omega

/-! ## Assignments around the returned one -/

namespace TrailingStatement

variable {text : List Char} (statement : TrailingStatement text)

/-- An earlier assignment is ended by a semicolon in front of the returned one: otherwise it would
end the text as well, and come first. -/
theorem semicolon_mem_drop {earlier assigned : List Char}
    (assignment : IsAssignment text earlier assigned)
    (shorter : earlier.length < statement.before.length) :
    ';' ∈ statement.before.drop earlier.length := by
  by_contra free
  obtain ⟨candidate, least⟩ := statement.isCandidate
  obtain ⟨gap, blank, split⟩ := assignment.split
  obtain ⟨inner, lead, rfl⟩ :=
    exists_inner_of_length_lt blank (split.symm.trans statement.split) shorter
  rw [lead, List.append_assoc, List.append_assoc, List.drop_left] at free
  have fresh : ';' ∉ inner := fun member => free (by simp [member])
  refine Nat.not_le_of_lt shorter (least earlier _ ⟨assignment, ?_, ?_⟩)
  · rcases inner with _ | ⟨c, inner⟩
    · exact ⟨'m', rfl, by decide⟩
    · exact ⟨c, rfl, fun semicolon => fresh (by simp [semicolon])⟩
  · -- The first semicolon of what the earlier one assigns stands behind the sign of the later one.
    intro part back closing free
    have unclosed : ';' ∉ inner ++ exportTarget ++ statement.gap ++ ['='] := by
      have gapFree : ';' ∉ statement.gap :=
        notMem_of_isBlankText statement.blank_gap (by decide)
      have targetFree : ';' ∉ exportTarget := by decide
      simp [fresh, gapFree, targetFree]
    obtain ⟨rest, rfl, same⟩ :=
      exists_of_append_eq_append_cons (by simpa using closing) unclosed
    exact candidate.closed rest back (by simpa using same) fun member =>
      free (List.mem_append_right _ member)

/-- Nothing is compared when the expression does not begin with a sign. -/
theorem isComparison_iff :
    IsComparison (statement.front ++ statement.expression ++ statement.trail) ↔
      statement.expression.head? = some '=' := by
  constructor
  · rintro ⟨gap, rest, blank, split⟩
    rw [List.append_assoc] at split
    obtain ⟨inner, rfl, parts⟩ := exists_of_append_eq_append_cons split
      (notMem_of_isBlankText statement.blank_front (by decide))
    obtain ⟨others, begins, -⟩ := exists_of_append_eq_cons_append parts
      (notMem_of_isBlankText_erase statement.blank_trail (by decide) (by decide))
    rcases inner with _ | ⟨c, inner⟩
    · rw [begins]
      rfl
    · have first : isBlank c = true := isBlankText_iff.mp blank c (by simp)
      have none := statement.eq_nil_of_isBlank begins first
      simp at none
  · intro sign
    obtain ⟨rest, begins⟩ := List.head?_eq_some_iff.mp sign
    exact ⟨statement.front, rest ++ statement.trail, statement.blank_front, by simp [begins]⟩

/-- A later assignment stands inside the expression. -/
theorem exists_inner_of_isAssignment {later behind : List Char}
    (assignment : IsAssignment text later behind)
    (further : statement.before.length < later.length) :
    ∃ inner gap rest, isBlankText gap = true ∧
      statement.expression = inner ++ exportTarget ++ gap ++ '=' :: rest ∧
      later = statement.lead ++ inner := by
  obtain ⟨gap, blank, split⟩ := assignment.split
  obtain ⟨inner, rfl, parts⟩ :=
    exists_inner_of_length_lt statement.blank_gap (statement.split.symm.trans split) further
  have start : 'm' ∉ statement.front := notMem_of_isBlankText statement.blank_front (by decide)
  have sign : '=' ∉ statement.trail :=
    notMem_of_isBlankText_erase statement.blank_trail (by decide) (by decide)
  have starts : statement.front ++ (statement.expression ++ statement.trail) =
      inner ++ 'm' :: ("odule.exports".toList ++ gap ++ '=' :: behind) := by
    simpa [exportTarget_eq] using parts
  obtain ⟨inner, rfl, within⟩ := exists_of_append_eq_append_cons starts start
  have assigns : statement.expression ++ statement.trail =
      inner ++ exportTarget ++ gap ++ '=' :: behind := by
    simpa [exportTarget_eq] using within
  obtain ⟨rest, same, -⟩ := exists_of_append_eq_cons_append assigns sign
  exact ⟨inner, gap, rest, blank, same, by simp [lead]⟩

/-- An assignment inside the expression is a later one of the text. -/
theorem isAssignment_of_expression {inner gap rest : List Char} (blank : isBlankText gap = true)
    (within : statement.expression = inner ++ exportTarget ++ gap ++ '=' :: rest)
    (opens : OpensStatement (statement.lead ++ inner)) :
    IsAssignment text (statement.lead ++ inner) (rest ++ statement.trail) :=
  ⟨⟨gap, blank, statement.split_lead.trans (by simp [within])⟩, opens⟩

end TrailingStatement

/-- **A text returns the expression of a single assignment exactly when nothing is compared with the
target at its end and no assignment follows the one that ends it.** A text is changed when it has a
trailing export, and then a semicolon ends every assignment in front of the returned one. -/
theorem forall_isSole_iff (text : List Char) :
    (returnExport text ≠ text ↔ Nonempty (TrailingStatement text)) ∧
      (∀ statement : TrailingStatement text,
        returnExport text =
            statement.before ++ "return ".toList ++ statement.expression ++ [';'] ∧
          ∀ earlier assigned, IsAssignment text earlier assigned →
            earlier.length < statement.before.length →
            ';' ∈ statement.before.drop earlier.length) ∧
      ((∀ statement : TrailingStatement text, statement.IsSole) ↔
        ∀ before assigned, IsCandidate text before assigned → ¬IsComparison assigned ∧
          ∀ later behind, IsAssignment text later behind → later.length ≤ before.length) := by
  refine ⟨TrailingStatement.nonempty_iff.symm, fun statement => ⟨statement.returnExport_eq,
    fun _ _ => statement.semicolon_mem_drop⟩, ?_, ?_⟩
  · intro sole before assigned candidate
    obtain ⟨statement⟩ := candidate.nonempty_trailingStatement
    obtain ⟨first, least⟩ := statement.isCandidate
    obtain ⟨sign, free⟩ := sole statement
    have last : ∀ later behind, IsAssignment text later behind →
        later.length ≤ statement.before.length := by
      intro later behind assignment
      by_contra further
      obtain ⟨inner, gap, rest, blank, within, rfl⟩ :=
        statement.exists_inner_of_isAssignment assignment (Nat.lt_of_not_le further)
      exact free inner gap rest blank within assignment.opens
    obtain ⟨rfl, rfl⟩ := candidate.toIsAssignment.unique first.toIsAssignment
      (le_antisymm (last _ _ candidate.toIsAssignment) (least _ _ candidate))
    exact ⟨mt statement.isComparison_iff.mp sign, last⟩
  · intro single statement
    obtain ⟨sign, last⟩ := single _ _ statement.isCandidate.1
    refine ⟨mt statement.isComparison_iff.mpr sign, ?_⟩
    intro inner gap rest blank within opens
    have further := last _ _ (statement.isAssignment_of_expression blank within opens)
    simp only [TrailingStatement.lead, List.length_append] at further
    have target : 0 < exportTarget.length := by decide
    omega

example : returnTrailingExport "module.exports = a\nmodule.exports = b\n" =
    "return a\nmodule.exports = b;" := by decide

/-- A comparison at the end of a text is returned as if it were an assignment. -/
theorem not_forall_isSole :
    ¬∀ (text : List Char) (statement : TrailingStatement text), statement.IsSole := by
  intro all
  have sole := all "module.exports == x;\n".toList
    { before := [], gap := [' '], front := [], expression := "= x".toList, trail := ";\n".toList
      found := by decide
      split := by decide
      blank_gap := by decide
      blank_front := by decide
      blank_trail := by decide }
  exact sole.1 rfl

end BundleFinish.Umd
