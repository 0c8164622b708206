import BundleFinish.Proofs.Directives
import BundleFinish.Proofs.DiagnosticBlocks

/-! # Directives among the lines of a script

A directive is one line more in a script: on top of all lines, or below the interpreter line. All
other lines stay as they were, in their order, so that the script is what is left when the directive
is taken out; only an interpreter line that ended the script without a newline has one then. Of
several directives the last one that was put in comes first (`injectReference_inserts`). -/

namespace BundleFinish

/-! ## Lines of a text -/

namespace Text

variable {text line shown rest : List Char}

/-- The lines of a text, without their newlines. Behind the last newline there is a line only where
there is something. -/
def newlineLines (text : List Char) : List (List Char) :=
  (splitInclusive text).map (List.takeWhile (· ≠ '\n'))

/-- A text without a newline is taken whole. -/
theorem takeWhile_of_not_mem (single : '\n' ∉ line) : line.takeWhile (· ≠ '\n') = line :=
  List.takeWhile_eq_self_iff.mpr fun c member => by
    simpa using ne_of_mem_of_not_mem member single

/-- The first line of a text, and the lines behind it. -/
theorem newlineLines_append_newline (single : '\n' ∉ line) (rest : List Char) :
    newlineLines (line ++ '\n' :: rest) = line :: newlineLines rest := by
  have first : (line ++ ['\n']).takeWhile (· ≠ '\n') = line := by
    rw [List.takeWhile_append_of_pos fun c member => by
      simpa using ne_of_mem_of_not_mem member single]
    simp
  rw [newlineLines, splitInclusive_append_newline single, List.map_cons, first, newlineLines]

/-- The only line of a text. -/
theorem newlineLines_of_not_mem (single : '\n' ∉ line) (some : line ≠ []) :
    newlineLines line = [line] := by
  rw [newlineLines, splitInclusive_of_not_mem single some, List.map_singleton,
    takeWhile_of_not_mem single]

/-- Behind some items, an item is put in at their number. -/
theorem insertIdx_append {α : Type} (before behind : List α) (item : α) :
    (before ++ behind).insertIdx before.length item = before ++ item :: behind := by
  induction before with
  | nil => rfl
  | cons first others ih =>
    rw [List.cons_append, List.length_cons, List.insertIdx_succ_cons, ih, List.cons_append]

/-- How many lines of a text stand above what is put below its interpreter line. -/
def linesAbove (text : List Char) : Nat := if "#!".toList <+: text then 1 else 0

/-- A text whose interpreter line has its newline. -/
def endShebang (text : List Char) : List Char :=
  if "#!".toList <+: text ∧ '\n' ∉ text then text ++ ['\n'] else text

/-- A newline is missing exactly where the interpreter line is the whole text. -/
theorem endShebang_eq_iff : endShebang text = text ↔ ¬("#!".toList <+: text ∧ '\n' ∉ text) := by
  unfold endShebang
  split_ifs with unended
  · exact iff_of_false (by simp) (not_not_intro unended)
  · exact iff_of_true rfl unended

namespace InterpreterSplit

/-- Nothing is lost between the interpreter line and the rest. -/
theorem append_eq (split : InterpreterSplit text shown rest) : shown ++ rest = endShebang text := by
  cases split with
  | plain plain => rw [endShebang, if_neg fun starts => plain starts.1, List.nil_append]
  | ended starts single =>
    rw [endShebang, if_neg fun unended => unended.2 (by simp), List.append_assoc,
      List.singleton_append]
  | unended starts single => rw [endShebang, if_pos ⟨starts, single⟩, List.append_nil]

/-- The interpreter line is a line of its own above all that is put below it. -/
theorem exists_lines (split : InterpreterSplit text shown rest) :
    ∃ above : List (List Char), above.length = linesAbove text ∧
      newlineLines text = above ++ newlineLines rest ∧ ∀ behind : List Char,
        newlineLines (shown ++ behind) = above ++ newlineLines behind ∧
          (shown ++ behind).splitOn '\n' = above ++ behind.splitOn '\n' := by
  cases split with
  | plain plain => exact ⟨[], by rw [linesAbove, if_neg plain]; rfl, rfl, fun _ => ⟨rfl, rfl⟩⟩
  | @ended line rest starts single =>
    refine ⟨[line], ?_, newlineLines_append_newline single _, fun behind => ?_⟩
    · rw [linesAbove, if_pos (starts.trans (List.prefix_append _ _))]
      rfl
    · rw [List.append_assoc, List.singleton_append, List.splitOn_append_cons_self,
        List.splitOn_eq_singleton single]
      exact ⟨newlineLines_append_newline single _, rfl⟩
  | unended starts single =>
    have some : text ≠ [] := by
      rintro rfl
      exact absurd starts (by simp)
    refine ⟨[text], ?_, newlineLines_of_not_mem single some, fun behind => ?_⟩
    · rw [linesAbove, if_pos starts]
      rfl
    · rw [List.append_assoc, List.singleton_append, List.splitOn_append_cons_self,
        List.splitOn_eq_singleton single]
      exact ⟨newlineLines_append_newline single _, rfl⟩

end InterpreterSplit

end Text

namespace Declarations

open Text

/-! ## The line of a directive -/

variable {declaration : String}

/-- A text with a directive starts with `#!` where the text does. -/
theorem shebang_injectReference (text declaration : String) :
    "#!".toList <+: (injectReference text declaration).toList ↔ "#!".toList <+: text.toList := by
  obtain ⟨shown, rest, split⟩ := exists_interpreterSplit text.toList
  -- Both show the same interpreter line, and none is shown exactly where there is no `#!`.
  exact not_iff_not.mp ((interpreterSplit_injectReference split declaration).eq_nil_iff.symm.trans
    split.eq_nil_iff)

/-- A directive leaves alone how many lines stand above it. -/
@[simp] theorem linesAbove_injectReference (text declaration : String) :
    linesAbove (injectReference text declaration).toList = linesAbove text.toList :=
  if_congr (shebang_injectReference text declaration) rfl rfl

/-- A directive is put in between two lines. -/
theorem exists_newlineLines_injectReference (single : '\n' ∉ declaration.toList) (text : String) :
    ∃ above below, above.length = linesAbove text.toList ∧
      newlineLines text.toList = above ++ below ∧
      newlineLines (injectReference text declaration).toList =
        above ++ (referenceDirective declaration).toList :: below := by
  obtain ⟨shown, rest, split⟩ := exists_interpreterSplit text.toList
  obtain ⟨above, count, whole, below⟩ := split.exists_lines
  refine ⟨above, newlineLines rest, count, whole, ?_⟩
  rw [injectReference, String.toList_ofList, injectChars_eq split, (below _).1,
    newlineLines_append_newline (newline_not_mem_referenceDirective single)]

/-- A directive is one line more. -/
theorem newlineLines_injectReference (single : '\n' ∉ declaration.toList) (text : String) :
    newlineLines (injectReference text declaration).toList =
      (newlineLines text.toList).insertIdx (linesAbove text.toList)
        (referenceDirective declaration).toList := by
  obtain ⟨above, below, count, whole, inserted⟩ := exists_newlineLines_injectReference single text
  rw [inserted, whole, ← count, insertIdx_append]

/-- A directive is one piece more between newlines. -/
theorem splitOn_injectReference (single : '\n' ∉ declaration.toList) (text : String) :
    (injectReference text declaration).toList.splitOn '\n' =
      ((endShebang text.toList).splitOn '\n').insertIdx (linesAbove text.toList)
        (referenceDirective declaration).toList := by
  obtain ⟨shown, rest, split⟩ := exists_interpreterSplit text.toList
  obtain ⟨above, count, -, below⟩ := split.exists_lines
  rw [injectReference, String.toList_ofList, injectChars_eq split, (below _).2,
    List.splitOn_append_cons_self, List.splitOn_eq_singleton
      (newline_not_mem_referenceDirective single), ← split.append_eq, (below _).2, ← count,
    insertIdx_append, List.singleton_append]

/-- Directives stand below the interpreter line, each above those that were put in before it. -/
theorem newlineLines_foldl {declarations : List String}
    (single : ∀ declaration ∈ declarations, '\n' ∉ declaration.toList) (text : String) :
    newlineLines (declarations.foldl injectReference text).toList =
      (newlineLines text.toList).take (linesAbove text.toList) ++
        (declarations.reverse.map fun declaration => (referenceDirective declaration).toList) ++
          (newlineLines text.toList).drop (linesAbove text.toList) := by
  induction declarations generalizing text with
  | nil => simp
  | cons declaration others ih =>
    obtain ⟨here, later⟩ := List.forall_mem_cons.mp single
    obtain ⟨above, below, count, whole, inserted⟩ :=
      exists_newlineLines_injectReference here text
    -- The first directive is put in, and the others come between it and the lines above.
    rw [List.foldl_cons, ih later, linesAbove_injectReference, inserted, whole, ← count,
      List.take_left, List.drop_left, List.take_left, List.drop_left, List.reverse_cons,
      List.map_append, List.map_singleton]
    simp only [List.append_assoc, List.singleton_append]

/-- **Directives among the lines of a script.** A directive whose declaration file has no newline in
its name is put in as one line, below the interpreter line where there is one and else on top. When
that line is taken out again, the text is left as it was, octet by octet, except for the newline of
an interpreter line that had none. What begins with an interpreter line still does so, and nothing
else does. Several directives are as many lines more, the last one first. -/
theorem injectReference_inserts (text declaration : String) :
    ('\n' ∉ declaration.toList →
      newlineLines (injectReference text declaration).toList =
          (newlineLines text.toList).insertIdx (linesAbove text.toList)
            (referenceDirective declaration).toList ∧
        (injectReference text declaration).toList.splitOn '\n' =
          ((endShebang text.toList).splitOn '\n').insertIdx (linesAbove text.toList)
            (referenceDirective declaration).toList ∧
        ['\n'].intercalate (((injectReference text declaration).toList.splitOn '\n').eraseIdx
          (linesAbove text.toList)) = endShebang text.toList) ∧
    (endShebang text.toList ≠ text.toList ↔ "#!".toList <+: text.toList ∧ '\n' ∉ text.toList) ∧
    ("#!".toList <+: (injectReference text declaration).toList ↔ "#!".toList <+: text.toList) ∧
    ∀ declarations : List String, (∀ name ∈ declarations, '\n' ∉ name.toList) →
      newlineLines (declarations.foldl injectReference text).toList =
        (newlineLines text.toList).take (linesAbove text.toList) ++
          (declarations.reverse.map fun name => (referenceDirective name).toList) ++
            (newlineLines text.toList).drop (linesAbove text.toList) := by
  refine ⟨fun single => ?_, not_iff_comm.mp endShebang_eq_iff.symm,
    shebang_injectReference text declaration,
    fun declarations single => newlineLines_foldl single text⟩
  refine ⟨newlineLines_injectReference single text, splitOn_injectReference single text, ?_⟩
  rw [splitOn_injectReference single, List.eraseIdx_insertIdx_self, List.intercalate_splitOn]

/-- A script that is nothing but an interpreter line, with a carriage return and no newline at its
end. -/
def bareScript : String := "#!/usr/bin/env node\r"

theorem injectReference_inserts_sample :
    newlineLines (injectReference bareScript "a.d.ts").toList =
        ["#!/usr/bin/env node\r".toList, "/// <reference types=\"./a.d.ts\" />".toList] ∧
      ['\n'].intercalate (((injectReference bareScript "a.d.ts").toList.splitOn '\n').eraseIdx 1) =
        "#!/usr/bin/env node\r\n".toList ∧
      newlineLines (["a.d.ts", "b.d.ts"].foldl injectReference bareScript).toList =
        ["#!/usr/bin/env node\r".toList, "/// <reference types=\"./b.d.ts\" />".toList,
          "/// <reference types=\"./a.d.ts\" />".toList] := by
  obtain ⟨inserts, -, -, several⟩ := injectReference_inserts bareScript "a.d.ts"
  obtain ⟨line, -, taken⟩ := inserts (by decide)
  have both := several ["a.d.ts", "b.d.ts"] (by decide)
  exact ⟨line.trans (by decide +kernel), taken.trans (by decide +kernel),
    both.trans (by decide +kernel)⟩

end Declarations

end BundleFinish
