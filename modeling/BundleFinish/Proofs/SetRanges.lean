import BundleFinish.Pattern.Space
import BundleFinish.Proofs.CodeTables

/-! # The ranges of sets

A set of characters is written out as ranges before its space is counted. These ranges stand in
order and apart, and they hold exactly the characters of the set (`CharSet.within_ranges_iff`). -/

namespace BundleFinish.Pattern

open CodeRanges

/-! ## Ranges in order and apart -/

namespace Ranges

variable {ranges a b : Ranges} {start first last code : Nat}

/-- No range is empty, the first one does not start before a code point, and behind each one there
is a code point that is in none. -/
def IsTidy : (start : Nat) → Ranges → Prop
  | _, [] => True
  | start, (first, last) :: others =>
    start ≤ first ∧ first ≤ last ∧ IsTidy (last + 2) others

/-- Tidy ranges may start before any earlier code point. -/
theorem IsTidy.mono {low : Nat} (tidy : IsTidy start ranges) (le : low ≤ start) :
    IsTidy low ranges := by
  cases ranges with
  | nil => trivial
  | cons range others => exact ⟨Nat.le_trans le tidy.1, tidy.2⟩

/-- A range of tidy ones is not empty and does not start before their beginning. -/
theorem IsTidy.le_of_mem (tidy : IsTidy start ranges) {range : Nat × Nat}
    (member : range ∈ ranges) : start ≤ range.1 ∧ range.1 ≤ range.2 := by
  induction ranges generalizing start with
  | nil => cases member
  | cons head others ih =>
    obtain ⟨begins, some, behind⟩ := tidy
    rcases List.mem_cons.mp member with rfl | inOthers
    · exact ⟨begins, some⟩
    · have bounds := ih behind inOthers
      omega

/-- Nothing in front of tidy ranges is in one of them. -/
theorem IsTidy.not_within (tidy : IsTidy start ranges) (before : code < start) :
    ¬Within code ranges := by
  rintro ⟨range, member, spans⟩
  have bounds := tidy.le_of_mem member
  exact absurd spans.1 (by omega)

/-! ### Unions -/

/-- A range that is added keeps the ranges tidy. -/
theorem IsTidy.insert (tidy : IsTidy start ranges) (begins : start ≤ first) (some : first ≤ last) :
    IsTidy start (ranges.insert first last) := by
  induction ranges generalizing start first last with
  | nil => exact ⟨begins, some, trivial⟩
  | cons range others ih =>
    obtain ⟨low, high⟩ := range
    obtain ⟨lowBegins, lowSome, behind⟩ := tidy
    rw [Ranges.insert]
    split_ifs with before after
    · exact ⟨begins, some, by omega, lowSome, behind⟩
    · exact ⟨lowBegins, lowSome, ih behind (by omega) some⟩
    · -- The two ranges become one, which may reach the others.
      exact ih (behind.mono (by omega)) (by omega) (by omega)

/-- A range that is added is held, and so is what was held. -/
theorem IsTidy.within_insert (tidy : IsTidy start ranges) (some : first ≤ last) :
    Within code (ranges.insert first last) ↔
      (first ≤ code ∧ code ≤ last) ∨ Within code ranges := by
  induction ranges generalizing start first last with
  | nil => rw [Ranges.insert, within_cons]
  | cons range others ih =>
    obtain ⟨low, high⟩ := range
    obtain ⟨-, lowSome, behind⟩ := tidy
    rw [Ranges.insert]
    split_ifs with before after
    · exact within_cons
    · rw [within_cons, within_cons, ih behind some, or_left_comm]
    · have merged : min first low ≤ code ∧ code ≤ max last high ↔
          (first ≤ code ∧ code ≤ last) ∨ low ≤ code ∧ code ≤ high := by omega
      rw [ih behind (by omega), within_cons, merged, or_assoc]

/-- The union of ranges with tidy ones is tidy. -/
theorem IsTidy.union (tidy : IsTidy 0 b) (some : ∀ range ∈ a, range.1 ≤ range.2) :
    IsTidy 0 (a.union b) := by
  induction a with
  | nil => exact tidy
  | cons range others ih =>
    obtain ⟨isSome, othersSome⟩ := List.forall_mem_cons.mp some
    exact (ih othersSome).insert (Nat.zero_le _) isSome

/-- A union holds what one of the two holds. -/
theorem IsTidy.within_union (tidy : IsTidy 0 b) (some : ∀ range ∈ a, range.1 ≤ range.2) :
    Within code (a.union b) ↔ Within code a ∨ Within code b := by
  induction a with
  | nil => simp [Ranges.union]
  | cons range others ih =>
    obtain ⟨isSome, othersSome⟩ := List.forall_mem_cons.mp some
    have behind := tidy.union othersSome
    change Within code ((Ranges.union others b).insert range.1 range.2) ↔ _
    rw [behind.within_insert isSome, ih othersSome, within_cons, or_assoc]

/-! ### Complements -/

/-- The gaps between tidy ranges are tidy. -/
theorem IsTidy.gapsFrom (tidy : IsTidy start ranges) : IsTidy start (ranges.gapsFrom start) := by
  induction ranges generalizing start with
  | nil =>
    rw [Ranges.gapsFrom]
    split_ifs with more
    · exact ⟨Nat.le_refl _, more, trivial⟩
    · trivial
  | cons range others ih =>
    obtain ⟨low, high⟩ := range
    obtain ⟨begins, some, behind⟩ := tidy
    have further := ih (behind.mono (Nat.le_succ (high + 1)))
    rw [Ranges.gapsFrom]
    split_ifs with gap
    · exact ⟨Nat.le_refl _, by omega, further.mono (by omega)⟩
    · exact further.mono (by omega)

/-- The gaps from a code point on hold what is in no range from there on. -/
theorem IsTidy.within_gapsFrom (tidy : IsTidy start ranges) (isCode : code ≤ largestCode) :
    Within code (ranges.gapsFrom start) ↔ start ≤ code ∧ ¬Within code ranges := by
  induction ranges generalizing start with
  | nil =>
    rw [Ranges.gapsFrom]
    split_ifs with more
    · simp [isCode]
    · simp only [not_within_nil, not_false_eq_true, and_true, false_iff]
      omega
  | cons range others ih =>
    obtain ⟨low, high⟩ := range
    obtain ⟨begins, some, behind⟩ := tidy
    have further := ih (behind.mono (Nat.le_succ (high + 1)))
    have later : Within code others → high + 2 ≤ code := fun within =>
      Nat.le_of_not_lt fun before => behind.not_within before within
    have gaps : Within code (Ranges.gapsFrom start ((low, high) :: others)) ↔
        (start ≤ code ∧ code < low) ∨ (high + 1 ≤ code ∧ ¬Within code others) := by
      rw [Ranges.gapsFrom]
      split_ifs with gap
      · rw [within_cons, further]
        exact or_congr_left (by omega)
      · rw [further]
        exact (or_iff_right (by omega)).symm
    rw [gaps, within_cons]
    dsimp only
    -- A code point in another range lies behind this one, and so in no gap in front of it.
    by_cases within : Within code others
    · have place := later within
      simp only [within, not_true_eq_false, and_false, or_true, or_false, iff_false]
      omega
    · simp only [within, not_false_eq_true, and_true, or_false]
      omega

/-- The complement of tidy ranges is tidy. -/
theorem IsTidy.complement (tidy : IsTidy 0 ranges) : IsTidy 0 ranges.complement := tidy.gapsFrom

/-- A complement holds what the ranges do not hold. -/
theorem IsTidy.within_complement (tidy : IsTidy 0 ranges) (isCode : code ≤ largestCode) :
    Within code ranges.complement ↔ ¬Within code ranges := by
  rw [Ranges.complement, tidy.within_gapsFrom isCode]
  simp

end Ranges

/-! ## Sets -/

namespace CharSet

/-- The tables of a set have ranges that ascend, as a search in them takes for granted. -/
def Ascends : CharSet → Prop
  | .table ranges => ascendFrom 0 ranges.toList = true
  | .union left right => left.Ascends ∧ right.Ascends
  | .intersection left right => left.Ascends ∧ right.Ascends
  | .complement set => set.Ascends
  | .folded set => set.Ascends
  | .foldedAscii set => set.Ascends
  | _ => True

/-- The code point of a character is not above the largest one. -/
theorem toNat_le_largestCode (c : Char) : c.toNat ≤ Ranges.largestCode := by
  have valid : c.toNat < 0xd800 ∨ 0xdfff < c.toNat ∧ c.toNat < 0x110000 := c.valid
  unfold Ranges.largestCode
  omega

/-- Ranges are tidy and hold the characters of a set. -/
structure IsSpread (set : CharSet) (ranges : Ranges) : Prop where
  tidy : ranges.IsTidy 0
  within : ∀ c : Char, Within c.toNat ranges ↔ set.holds c.toNat = true

/-- Ranges of one code point each. -/
def singles (codes : List Nat) : Ranges := codes.map fun code => (code, code)

theorem le_of_mem_singles {codes : List Nat} : ∀ range ∈ singles codes, range.1 ≤ range.2 := by
  simp [singles]

/-- Ranges of one code point hold these. -/
theorem within_singles {codes : List Nat} {code : Nat} :
    Within code (singles codes) ↔ code ∈ codes := by
  simp only [Within, Spans, singles, List.mem_map]
  constructor
  · rintro ⟨_, ⟨found, member, rfl⟩, above, below⟩
    rwa [Nat.le_antisymm below above]
  · exact fun member => ⟨_, ⟨code, member, rfl⟩, Nat.le_refl _, Nat.le_refl _⟩

/-- A larger set is spread by the ranges of a smaller one and the code points that it has more of,
picked from all that it may have. -/
theorem IsSpread.add {small large : CharSet} {ranges : Ranges} (spread : small.IsSpread ranges)
    {codes : List Nat} (more : ∀ code, large.holds code = true ↔
      small.holds code = true ∨ code ∈ codes ∧ large.holds code = true) :
    large.IsSpread (Ranges.union (singles (codes.filter large.holds)) ranges) := by
  refine ⟨spread.tidy.union le_of_mem_singles, fun c => ?_⟩
  rw [spread.tidy.within_union le_of_mem_singles, within_singles, spread.within, List.mem_filter,
    or_comm]
  exact (more c.toNat).symm

/-- A character is among those that differ from it only in case. -/
theorem mem_foldOrbit (code : Nat) : code ∈ Tables.foldOrbit code := by
  unfold Tables.foldOrbit Tables.fold
  rcases found : Tables.foldings.lookup code with _ | target
  · exact List.mem_cons_self
  · refine List.mem_cons_of_mem _ (List.mem_map.mpr ⟨(code, target), ?_, rfl⟩)
    obtain ⟨before, behind, shape, -⟩ := List.lookup_eq_some_iff.mp found
    simp [shape]

/-- A character that is not in the table has no others that differ from it only in case. -/
theorem foldOrbit_of_not_mem {code : Nat}
    (absent : code ∉ Tables.foldings.flatMap fun pair => [pair.1, pair.2]) :
    Tables.foldOrbit code = [code] := by
  have apart : ∀ pair ∈ Tables.foldings, pair.1 ≠ code ∧ pair.2 ≠ code := by
    intro pair member
    constructor <;> rintro rfl <;> exact absent (List.mem_flatMap.mpr ⟨pair, member, by simp⟩)
  have none : Tables.foldings.lookup code = none :=
    List.lookup_eq_none_iff.mpr fun pair member => by simpa using (apart pair member).1.symm
  have others : Tables.foldings.filter (fun pair => pair.2 == code) = [] :=
    List.filter_eq_nil_iff.mpr fun pair member => by simpa using (apart pair member).2
  unfold Tables.foldOrbit Tables.fold
  rw [none, Option.getD_none]
  dsimp only
  rw [others, List.map_nil]

/-- Only characters of the table come to a set by the others that differ from them in case. -/
theorem holds_folded_iff (set : CharSet) (code : Nat) :
    (CharSet.folded set).holds code = true ↔ set.holds code = true ∨
      code ∈ Tables.foldings.flatMap (fun pair => [pair.1, pair.2]) ∧
        (CharSet.folded set).holds code = true := by
  constructor
  · intro held
    by_cases member : code ∈ Tables.foldings.flatMap fun pair => [pair.1, pair.2]
    · exact .inr ⟨member, held⟩
    · rw [holds, foldOrbit_of_not_mem member] at held
      exact .inl (by simpa using held)
  · rintro (held | ⟨-, held⟩)
    · exact List.any_eq_true.mpr ⟨code, mem_foldOrbit code, held⟩
    · exact held

/-- Only letters of ASCII come to a set by the letter that differs from them in case. -/
theorem holds_foldedAscii_iff (set : CharSet) (code : Nat) :
    (CharSet.foldedAscii set).holds code = true ↔ set.holds code = true ∨
      code ∈ List.range' 65 26 ++ List.range' 97 26 ∧
        (CharSet.foldedAscii set).holds code = true := by
  simp only [holds, Bool.or_eq_true, Bool.and_eq_true, decide_eq_true_eq, List.mem_append,
    List.mem_range'_1]
  constructor
  · rintro ((held | ⟨⟨above, below⟩, held⟩) | ⟨⟨above, below⟩, held⟩)
    · exact .inl held
    · exact .inr ⟨.inl (by omega), .inl (.inr ⟨⟨above, below⟩, held⟩)⟩
    · exact .inr ⟨.inr (by omega), .inr ⟨⟨above, below⟩, held⟩⟩
  · rintro (held | ⟨-, held⟩)
    · exact .inl (.inl held)
    · exact held

/-- The ranges of a set are tidy and hold its characters. -/
theorem isSpread_ranges {set : CharSet} (ascends : set.Ascends) : set.IsSpread set.ranges := by
  induction set with
  | nothing => exact ⟨trivial, fun c => by simp [ranges, holds]⟩
  | everything =>
    refine ⟨⟨Nat.zero_le _, Nat.zero_le _, trivial⟩, fun c => ?_⟩
    simp [ranges, holds, toNat_le_largestCode]
  | interval first last =>
    rw [ranges]
    split_ifs with some
    · exact ⟨⟨Nat.zero_le _, some, trivial⟩, fun c => by simp [holds]⟩
    · refine ⟨trivial, fun c => ?_⟩
      simp [holds]
      omega
  | table table =>
    have some : ∀ range ∈ table.toList, range.1 ≤ range.2 := fun range member =>
      (bounds_of_ascendFrom ascends member).2
    have none : Ranges.IsTidy 0 [] := trivial
    refine ⟨none.union some, fun c => ?_⟩
    rw [ranges, none.within_union some, holds, holds_iff ascends, or_iff_left not_within_nil]
  | blank =>
    refine ⟨by simp [ranges, Ranges.IsTidy], fun c => ?_⟩
    simp [ranges, holds, Text.isBlank]
    omega
  | union left right ihLeft ihRight =>
    have first := ihLeft ascends.1
    have second := ihRight ascends.2
    have some : ∀ range ∈ left.ranges, range.1 ≤ range.2 := fun range member =>
      (first.tidy.le_of_mem member).2
    refine ⟨second.tidy.union some, fun c => ?_⟩
    rw [ranges, second.tidy.within_union some, first.within, second.within, holds, Bool.or_eq_true]
  | intersection left right ihLeft ihRight =>
    have first := ihLeft ascends.1
    have second := ihRight ascends.2
    have some : ∀ range ∈ left.ranges.complement, range.1 ≤ range.2 := fun range member =>
      (first.tidy.complement.le_of_mem member).2
    -- The intersection is what is outside of neither.
    have outside := second.tidy.complement.union some
    refine ⟨outside.complement, fun c => ?_⟩
    have isCode := toNat_le_largestCode c
    rw [ranges, Ranges.intersection, outside.within_complement isCode,
      second.tidy.complement.within_union some, first.tidy.within_complement isCode,
      second.tidy.within_complement isCode, first.within, second.within, holds, Bool.and_eq_true]
    tauto
  | complement set ih =>
    have spread := ih ascends
    refine ⟨spread.tidy.complement, fun c => ?_⟩
    rw [ranges, spread.tidy.within_complement (toNat_le_largestCode c), spread.within, holds]
    simp
  | folded set ih => exact (ih ascends).add (holds_folded_iff set)
  | foldedAscii set ih => exact (ih ascends).add (holds_foldedAscii_iff set)

/-- The ranges that the space of a set is counted by hold exactly the characters of the set. -/
theorem within_ranges_iff {set : CharSet} (ascends : set.Ascends) (c : Char) :
    Within c.toNat set.ranges ↔ set.holds c.toNat = true :=
  (isSpread_ranges ascends).within c

/-- Digits, for one, are looked up in a table that ascends. -/
example : digit.Ascends := by
  change ascendFrom 0 Text.decimalDigitRanges.toList = true
  decide +kernel

end CharSet

end BundleFinish.Pattern
