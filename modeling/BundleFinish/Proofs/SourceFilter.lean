import BundleFinish.Build.Tracked
import BundleFinish.Proofs.Backtracking
import BundleFinish.Proofs.MatchedPlaces
import BundleFinish.Proofs.WrittenPatterns

/-! # The filter for sources

The filter of the standard tracker is a search for `.ts` or `.tsx` at the end of a path. It keeps
exactly the paths that end so, whatever stands in front, and nothing may stand behind
(`Build.Tracker.matchesPath_standard`). -/

namespace BundleFinish

/-! ## Parts of patterns -/

namespace Pattern.Regex

variable {text : List Char} {first last : Nat}

/-- From a place a text goes on with a character. -/
theorem drop_eq_cons_iff {c : Char} :
    text.drop first = c :: text.drop (first + 1) ↔ text[first]? = some c := by
  constructor
  · intro shape
    rw [← List.head?_drop, shape, List.head?_cons]
  · intro here
    obtain ⟨inside, rfl⟩ := List.getElem?_eq_some_iff.mp here
    exact List.drop_eq_getElem_cons inside

/-- A character is matched by itself. -/
theorem matches_single_concat {c : Char} {back : Regex} :
    (concat (char (.single c)) back).Matches text first last ↔
      text.drop first = c :: text.drop (first + 1) ∧ back.Matches text (first + 1) last := by
  rw [drop_eq_cons_iff]
  simp only [Matches, CharSet.holds_single_toNat, beq_iff_eq]
  constructor
  · rintro ⟨_, ⟨_, here, rfl, rfl⟩, behind⟩
    exact ⟨here, behind⟩
  · rintro ⟨here, behind⟩
    exact ⟨_, ⟨_, here, rfl, rfl⟩, behind⟩

/-- What may stand once stands there once or not at all. -/
theorem matches_optional_concat {body back : Regex} :
    (concat (repeated 0 (some 1) body) back).Matches text first last ↔
      back.Matches text first last ∨ (concat body back).Matches text first last := by
  constructor
  · rintro ⟨middle, ⟨_ | _ | count, -, bounded, rounds⟩, behind⟩
    · obtain rfl : first = middle := rounds
      exact .inl behind
    · obtain ⟨_, taken, rfl⟩ := rounds
      exact .inr ⟨_, taken, behind⟩
    · have bound := bounded 1 rfl
      omega
  · rintro (behind | ⟨middle, taken, behind⟩)
    · exact ⟨first, ⟨0, Nat.le_refl _, fun _ _ => Nat.zero_le _, rfl⟩, behind⟩
    · have bounded : ∀ greatest ∈ some 1, 1 ≤ max 0 greatest := by
        rintro _ ⟨⟩
        exact Nat.le_refl _
      exact ⟨middle, ⟨1, Nat.zero_le _, bounded, middle, taken, rfl⟩, behind⟩

/-- The end of a text is where nothing is left of it. -/
theorem matches_endText :
    (concat (look .endText) empty).Matches text first last ↔
      text.drop first = [] ∧ first = last := by
  simp [Matches, Look.holds]

end Pattern.Regex

namespace Build

open Pattern

/-- What is left of a text from one of its places on is what it ends in. -/
theorem exists_drop_eq_iff {text ending : List Char} :
    (∃ first, first ≤ text.length ∧ text.drop first = ending) ↔ ending <:+ text := by
  constructor
  · rintro ⟨first, -, rfl⟩
    exact List.drop_suffix first text
  · rintro ⟨front, rfl⟩
    exact ⟨front.length, by simp⟩

/-- A text ends as the paths of sources do. -/
def EndsAsSource (text : String) : Prop :=
  ".ts".toList <:+ text.toList ∨ ".tsx".toList <:+ text.toList

/-- Behind a `.ts` only an `x`, or what ends so itself, may stand in such a text. -/
theorem endsAsSource_append (front behind : String) :
    EndsAsSource (front ++ ".ts" ++ behind) ↔
      behind = "" ∨ behind = "x" ∨ EndsAsSource behind := by
  have back : ".ts".toList ++ behind.toList <:+ (front ++ ".ts" ++ behind).toList :=
    ⟨front.toList, by simp⟩
  have empty : behind = "" ↔ behind.toList = [] := by rw [← String.toList_inj]; rfl
  have letter : behind = "x" ↔ behind.toList = ['x'] := by rw [← String.toList_inj]; rfl
  rw [empty, letter]
  by_cases nothing : behind.toList = []
  · refine iff_of_true (.inl ?_) (.inl nothing)
    rwa [nothing, List.append_nil] at back
  · -- Both endings are no longer than what begins at the `.ts`.
    have some := List.length_pos_iff.mpr nothing
    have within : ∀ ending : List Char, ending.length ≤ 4 →
        (ending <:+ (front ++ ".ts" ++ behind).toList ↔
          ending <:+ ".ts".toList ++ behind.toList) := fun ending short =>
      ⟨fun suffix => List.suffix_of_suffix_length_le suffix back
          (Nat.le_trans short (by simp; omega)), fun suffix => suffix.trans back⟩
    have short : ".ts".toList <:+ ".ts".toList ++ behind.toList ↔
        ".ts".toList <:+ behind.toList := by
      simp [List.suffix_cons_iff, nothing]
    have long : ".tsx".toList <:+ ".ts".toList ++ behind.toList ↔
        behind.toList = ['x'] ∨ ".tsx".toList <:+ behind.toList := by
      simp [List.suffix_cons_iff, eq_comm]
    rw [EndsAsSource, within _ (by decide), within _ (by decide), short, long, or_left_comm,
      or_iff_right nothing]
    rfl

namespace Tracker

/-! ## The standard pattern -/

/-- What the standard pattern means: the letters one after the other, the last one of them at most
once, and the end of the text. -/
def standardRegex : Regex :=
  .concat (.char (.single '.')) <| .concat (.char (.single 't')) <| .concat (.char (.single 's')) <|
    .concat (.repeated 0 (some 1) (.char (.single 'x'))) <| .concat (.look .endText) .empty

/-- The standard pattern as it is written. -/
def writtenStandard : Written :=
  .once (.letter (.escaped '.')) <| .letters ['t', 's'] <|
    .part (.letter (.plain 'x')) (some (.question, false)) <| .once .lineEnd .finish

/-- The standard pattern is compiled without a fault. -/
theorem compile_standardPattern :
    Pattern.compile standardPattern = .ok ⟨standardPattern, standardRegex⟩ := by
  have text : standardPattern = String.ofList writtenStandard.text := rfl
  have small : ¬ spaceLimit < writtenStandard.regex.space := by decide +kernel
  rw [text, compile_text (by decide) (by decide), if_neg small]
  rfl

/-- The standard tracker is that of the standard pattern. -/
theorem filter_standard : standard.filter = ⟨standardPattern, standardRegex⟩ := by
  rw [standard, ofPattern, compile_standardPattern]
  rfl

/-- What the standard pattern matches are the two endings of sources, at the end of a text. -/
theorem exists_matches_standardRegex_iff {text : List Char} {first : Nat} :
    (∃ last, standardRegex.Matches text first last) ↔
      text.drop first = ['.', 't', 's'] ∨ text.drop first = ['.', 't', 's', 'x'] := by
  have behind : ∀ count, text.drop (first + count) = (text.drop first).drop count :=
    fun count => (List.drop_drop ..).symm
  simp only [standardRegex, Regex.matches_single_concat, Regex.matches_optional_concat,
    Regex.matches_endText]
  constructor
  · rintro ⟨last, dot, t, s, ⟨ended, -⟩ | ⟨x, ended, -⟩⟩
    · exact .inl (by rw [dot, t, s, ended])
    · exact .inr (by rw [dot, t, s, x, ended])
  · rintro (shape | shape)
    · exact ⟨first + 3, by simp [behind, shape, Nat.add_assoc]⟩
    · exact ⟨first + 4, by simp [behind, shape, Nat.add_assoc]⟩

/-- **The standard filter keeps the paths that end in `.ts` or `.tsx`.** -/
theorem matchesPath_standard :
    (∀ path : Path, standard.matchesPath path = true ↔ EndsAsSource path.display) ∧
      ∀ front behind : String,
        standard.matchesPath (.ofString (front ++ ".ts" ++ behind)) = true ↔
          behind = "" ∨ behind = "x" ∨ EndsAsSource behind := by
  have kept : ∀ path : Path, standard.matchesPath path = true ↔ EndsAsSource path.display := by
    intro path
    rw [matchesPath, filter_standard, Compiled.isMatch, Regex.matchesIn_iff]
    simp only [exists_and_left, exists_matches_standardRegex_iff, and_or_left, exists_or,
      exists_drop_eq_iff]
    rfl
  refine ⟨kept, fun front behind => ?_⟩
  rw [kept, Path.display_ofString, endsAsSource_append]

/-- A path of two lines, neither of them in ASCII alone. -/
example : standard.matchesPath (.ofString "/π\n/größe.tsx") = true := by cbv

/-- A line break may not follow. -/
example : standard.matchesPath (.ofString "/p/a.ts\n") = false := by cbv

end Tracker

end Build

end BundleFinish
