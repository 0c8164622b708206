import BundleFinish.Text.CodeRanges
import Mathlib.Data.List.Basic
import Mathlib.Tactic.Common

/-! # Tables of code points

A table lists ranges of code points, each behind the one before. The binary search in it finds the
range that holds a code point wherever there is one (`CodeRanges.holds_iff`). Whether some tables
are disjoint, and whether they hold all code points of another, can be read off their ranges in one
pass: that of the tables merged into one. -/

namespace BundleFinish.CodeRanges

/-- A range holds a code point. -/
def Spans (range : Nat × Nat) (code : Nat) : Prop := range.1 ≤ code ∧ code ≤ range.2

/-- Some range of a list holds a code point. -/
def Within (code : Nat) (ranges : List (Nat × Nat)) : Prop := ∃ range ∈ ranges, Spans range code

variable {ranges a b : List (Nat × Nat)} {code start lo hi : Nat}

@[simp] theorem not_within_nil : ¬Within code [] := by
  rintro ⟨range, member, -⟩
  cases member

@[simp] theorem within_cons {range : Nat × Nat} :
    Within code (range :: ranges) ↔ (range.1 ≤ code ∧ code ≤ range.2) ∨ Within code ranges := by
  simp [Within, Spans, or_and_right, exists_or]

/-! ## Ascending ranges -/

/-- Whether no range is empty, the first one does not start before a code point, and each other one
starts behind the one before. -/
def ascendFrom : Nat → List (Nat × Nat) → Bool
  | _, [] => true
  | start, (first, last) :: rest => start ≤ first && first ≤ last && ascendFrom (last + 1) rest

/-- Ascending ranges are not empty and do not start before their beginning. -/
theorem bounds_of_ascendFrom (ascends : ascendFrom start ranges = true) {range : Nat × Nat}
    (member : range ∈ ranges) : start ≤ range.1 ∧ range.1 ≤ range.2 := by
  induction ranges generalizing start with
  | nil => cases member
  | cons head rest ih =>
    simp only [ascendFrom, Bool.and_eq_true, decide_eq_true_eq] at ascends
    obtain ⟨⟨begins, some⟩, follow⟩ := ascends
    rcases List.mem_cons.mp member with rfl | inRest
    · exact ⟨begins, some⟩
    · have bounds := ih follow inRest
      omega

/-- Of two ascending ranges, the first ends before the second starts. -/
theorem pairwise_of_ascendFrom (ascends : ascendFrom start ranges = true) :
    ranges.Pairwise fun before behind => before.2 < behind.1 := by
  induction ranges generalizing start with
  | nil => exact .nil
  | cons head rest ih =>
    simp only [ascendFrom, Bool.and_eq_true, decide_eq_true_eq] at ascends
    refine List.pairwise_cons.mpr ⟨fun range member => ?_, ih ascends.2⟩
    exact (bounds_of_ascendFrom ascends.2 member).1

/-! ## Binary search -/

variable {table : CodeRanges} {steps : Nat}

/-- A search that succeeds has come to a range that holds the code point. -/
theorem within_of_search (found : table.search code steps lo hi = true) :
    Within code table.toList := by
  induction steps generalizing lo hi with
  | zero => cases found
  | succ steps ih =>
    rw [search] at found
    split_ifs at found
    dsimp only at found
    rcases there : table[(lo + hi) / 2]? with _ | ⟨first, last⟩
    · rw [there] at found
      cases found
    · rw [there] at found
      dsimp only at found
      split_ifs at found with before behind
      · exact ih found
      · exact ih found
      · exact ⟨(first, last), Array.mem_toList_iff.mpr (Array.mem_of_getElem? there),
          by simpa using before, by simpa using behind⟩

/-- A search succeeds where one of its ranges holds the code point. -/
theorem search_of_spans (ascends : ascendFrom 0 table.toList = true) {index : Nat}
    {range : Nat × Nat} (there : table[index]? = some range) (spans : Spans range code)
    (above : lo ≤ index) (below : index < hi) (inTable : hi ≤ table.size)
    (enough : hi - lo < steps) : table.search code steps lo hi = true := by
  -- The range stays between the bounds, because those on the other side do not hold the code.
  have apart : ∀ {i j : Nat} {before behind : Nat × Nat}, table[i]? = some before →
      table[j]? = some behind → i < j → before.2 < behind.1 := by
    intro i j before behind isBefore isBehind order
    obtain ⟨inI, rfl⟩ := Array.getElem?_eq_some_iff.mp isBefore
    obtain ⟨inJ, rfl⟩ := Array.getElem?_eq_some_iff.mp isBehind
    exact List.pairwise_iff_getElem.mp (pairwise_of_ascendFrom ascends) i j inI inJ order
  induction steps generalizing lo hi with
  | zero => omega
  | succ steps ih =>
    have middle : (lo + hi) / 2 < table.size := by omega
    rw [search, if_pos (by omega)]
    dsimp only
    rw [Array.getElem?_eq_getElem middle]
    have present := Array.getElem?_eq_getElem middle
    generalize table[(lo + hi) / 2] = middling at present
    have some : middling.1 ≤ middling.2 := (bounds_of_ascendFrom ascends
      (Array.mem_toList_iff.mpr (Array.mem_of_getElem? present))).2
    obtain ⟨first, last⟩ := middling
    dsimp only at some ⊢
    obtain ⟨starts, ends⟩ := spans
    rcases Nat.lt_trichotomy index ((lo + hi) / 2) with before | rfl | behind
    · have order := apart there present before
      dsimp only at order
      rw [if_pos (by omega)]
      exact ih above before (by omega) (by omega)
    · obtain rfl : range = (first, last) := Option.some.inj (there.symm.trans present)
      rw [if_neg (by simpa using starts), if_neg (by simpa using ends)]
    · have order := apart present there behind
      dsimp only at order
      rw [if_neg (by omega), if_pos (by omega)]
      exact ih (by omega) below inTable (by omega)

/-- **Binary search.** In ascending ranges, the search finds a code point exactly if some range
holds it. -/
theorem holds_iff (ascends : ascendFrom 0 table.toList = true) :
    table.holds code = true ↔ Within code table.toList := by
  refine ⟨within_of_search, fun ⟨range, member, spans⟩ => ?_⟩
  obtain ⟨index, there⟩ := Array.mem_iff_getElem?.mp (Array.mem_toList_iff.mp member)
  obtain ⟨inTable, -⟩ := Array.getElem?_eq_some_iff.mp there
  exact search_of_spans ascends there spans (Nat.zero_le _) inTable (Nat.le_refl _) (by omega)

/-! ## Merged ranges -/

/-- Put a range into a list, in front of the first one that starts behind it, and go on with what is
to be put into the rest. -/
def mergeAfter (range : Nat × Nat) (further : List (Nat × Nat) → List (Nat × Nat)) :
    List (Nat × Nat) → List (Nat × Nat)
  | [] => range :: further []
  | other :: rest =>
    if range.1 ≤ other.1 then range :: further (other :: rest)
    else other :: mergeAfter range further rest

/-- Two lists of ranges in one, by where the ranges start. -/
def merge : List (Nat × Nat) → List (Nat × Nat) → List (Nat × Nat)
  | [], b => b
  | range :: a, b => mergeAfter range (merge a) b

/-- Merged lists have the ranges of both. -/
theorem merge_perm (a b : List (Nat × Nat)) : (merge a b).Perm (a ++ b) := by
  induction a generalizing b with
  | nil => exact .refl b
  | cons range a ih =>
    rw [merge]
    induction b with
    | nil => exact (ih []).cons range
    | cons other b inner =>
      rw [mergeAfter]
      split_ifs
      · exact (ih (other :: b)).cons range
      · exact (inner.cons other).trans List.perm_middle.symm

/-- What merged ranges hold, one of the lists holds. -/
theorem within_merge : Within code (merge a b) ↔ Within code a ∨ Within code b := by
  simp only [Within, (merge_perm a b).mem_iff, List.mem_append, or_and_right, exists_or]

/-- Where merged ranges ascend, the lists have no code point in common. -/
theorem not_within_of_merge (ascends : ascendFrom start (merge a b) = true)
    (inA : Within code a) : ¬Within code b := by
  rintro ⟨behind, inB, spansB⟩
  obtain ⟨before, inA, spansA⟩ := inA
  have apart : (merge a b).Pairwise fun x y => x.2 < y.1 ∨ y.2 < x.1 :=
    (pairwise_of_ascendFrom ascends).imp .inl
  have split := (merge_perm a b).pairwise_iff (fun h => Or.symm h) |>.mp apart
  have order := (List.pairwise_append.mp split).2.2 before inA behind inB
  unfold Spans at spansA spansB
  omega

/-! ## Covered ranges -/

/-- What is left of a list once it has held all code points of a range, if it holds them. -/
def after? : List (Nat × Nat) → (lo hi : Nat) → Option (List (Nat × Nat))
  | [], _, _ => none
  | (first, last) :: rest, lo, hi =>
    if last < lo then after? rest lo hi
    else if first ≤ lo then
      if hi ≤ last then some ((first, last) :: rest) else after? rest (last + 1) hi
    else none

/-- Whether ranges hold all code points of others. -/
def covers : (ranges needed : List (Nat × Nat)) → Bool
  | _, [] => true
  | ranges, (lo, hi) :: needed =>
    match after? ranges lo hi with
    | some rest => covers rest needed
    | none => false

/-- Another range in front of others holds more code points. -/
theorem Within.cons (within : Within code ranges) (range : Nat × Nat) :
    Within code (range :: ranges) := by
  obtain ⟨other, member, spans⟩ := within
  exact ⟨other, List.mem_cons_of_mem range member, spans⟩

/-- A list from which something is left holds the range, and what is left is a part of it. -/
theorem after?_spec {rest : List (Nat × Nat)} (left : after? ranges lo hi = some rest) :
    (∀ code, lo ≤ code → code ≤ hi → Within code ranges) ∧ rest ⊆ ranges := by
  fun_induction after? ranges lo hi with
  | case1 => cases left
  | case2 first last others lo hi behind ih =>
    obtain ⟨holds, part⟩ := ih left
    exact ⟨fun code above below => (holds code above below).cons _,
      fun range member => List.mem_cons_of_mem _ (part member)⟩
  | case3 first last others lo hi reaches starts ends =>
    obtain rfl := Option.some.inj left
    refine ⟨fun code above below => ⟨_, List.mem_cons_self, ?_⟩, List.Subset.refl _⟩
    exact ⟨Nat.le_trans starts above, Nat.le_trans below ends⟩
  | case4 first last others lo hi reaches starts short ih =>
    obtain ⟨holds, part⟩ := ih left
    refine ⟨fun code above below => ?_, fun range member => List.mem_cons_of_mem _ (part member)⟩
    by_cases inFirst : code ≤ last
    · exact ⟨_, List.mem_cons_self, Nat.le_trans starts above, inFirst⟩
    · exact (holds code (by omega) below).cons _
  | case5 => cases left

/-- Ranges that cover others hold all of their code points. -/
theorem within_of_covers {needed : List (Nat × Nat)} (covered : covers ranges needed = true)
    (within : Within code needed) : Within code ranges := by
  induction needed generalizing ranges with
  | nil =>
    obtain ⟨_, member, -⟩ := within
    cases member
  | cons range needed ih =>
    rw [covers] at covered
    rcases left : after? ranges range.1 range.2 with _ | rest
    · rw [left] at covered
      cases covered
    · rw [left] at covered
      obtain ⟨holds, part⟩ := after?_spec left
      obtain ⟨other, member, spans⟩ := within
      rcases List.mem_cons.mp member with rfl | inNeeded
      · exact holds code spans.1 spans.2
      · obtain ⟨found, inRest, covers⟩ := ih covered ⟨other, inNeeded, spans⟩
        exact ⟨found, part inRest, covers⟩

end BundleFinish.CodeRanges
