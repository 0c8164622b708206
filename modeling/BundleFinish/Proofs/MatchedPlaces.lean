import BundleFinish.Pattern.Regex

/-! # What regular expressions match

A regular expression matches a part of a text, from one place to another (`Regex.Matches`). The
places that are found to be ends of matches are those to which a match leads
(`Regex.leads_ends`), so a match is found in a text exactly when there is one
(`Regex.matchesIn_iff`). That repetitions are cut off loses no match: a match never goes back, so of
more rounds than there are places one stays where it is, and such a round can be left out or done
again (`Rounds.congr`). -/

namespace BundleFinish.Pattern

/-! ## Matches -/

/-- The character in front of a place of a text, if it is known what stands before the text. -/
def charBefore (before : Option Char) (text : List Char) : (place : Nat) → Option Char
  | 0 => before
  | place + 1 => text[place]?

/-- A relation between places, a number of times. -/
def Rounds (step : Nat → Nat → Prop) : (count : Nat) → (first last : Nat) → Prop
  | 0, first, last => first = last
  | count + 1, first, last => ∃ middle, step first middle ∧ Rounds step count middle last

/-- A regular expression matches a text from one place to another. -/
def Regex.Matches (text : List Char) : Regex → (first last : Nat) → Prop
  | .empty, first, last => first = last
  | .char set, first, last =>
    ∃ c, text[first]? = some c ∧ set.holds c.toNat = true ∧ last = first + 1
  | .look condition, first, last =>
    condition.holds (charBefore none text first) text[first]? = true ∧ first = last
  | .concat front back, first, last =>
    ∃ middle, front.Matches text first middle ∧ back.Matches text middle last
  | .either left right, first, last => left.Matches text first last ∨ right.Matches text first last
  | .repeated least most body, first, last =>
    ∃ count, least ≤ count ∧ (∀ greatest ∈ most, count ≤ max least greatest) ∧
      Rounds (body.Matches text) count first last

/-! ## Rounds -/

/-- A relation between the places of a text that never goes back. -/
structure Forward (size : Nat) (step : Nat → Nat → Prop) : Prop where
  le : ∀ {first last}, step first last → first ≤ last
  within : ∀ {first last}, step first last → first ≤ size → last ≤ size

/-- How many rounds behind the least number are tried in a text of some size. -/
def cutOff (size least : Nat) : (most : Option Nat) → Nat
  | some most => min (most - least) (size + 1)
  | none => size + 1

namespace Rounds

variable {step : Nat → Nat → Prop} {size count more first middle last : Nat}

/-- Some rounds and then some more. -/
theorem add_iff : Rounds step (count + more) first last ↔
    ∃ middle, Rounds step count first middle ∧ Rounds step more middle last := by
  induction count generalizing first with
  | zero =>
    rw [Nat.zero_add]
    exact ⟨fun rounds => ⟨first, rfl, rounds⟩, fun ⟨_, same, rounds⟩ => same ▸ rounds⟩
  | succ count ih =>
    rw [Nat.succ_add]
    simp only [Rounds, ih]
    exact ⟨fun ⟨next, taken, middle, front, back⟩ => ⟨middle, ⟨next, taken, front⟩, back⟩,
      fun ⟨middle, ⟨next, taken, front⟩, back⟩ => ⟨next, taken, middle, front, back⟩⟩

/-- Rounds of steps that do not go back do not go back. -/
theorem forward (forward : Forward size step) (count : Nat) : Forward size (Rounds step count) where
  le := by
    intro first last rounds
    induction count generalizing first with
    | zero => exact Nat.le_of_eq rounds
    | succ count ih =>
      obtain ⟨middle, taken, others⟩ := rounds
      exact Nat.le_trans (forward.le taken) (ih others)
  within := by
    intro first last rounds within
    induction count generalizing first with
    | zero => exact (show first = last from rounds) ▸ within
    | succ count ih =>
      obtain ⟨middle, taken, others⟩ := rounds
      exact ih others (forward.within taken within)

/-- Where there are more rounds than places, one stays where it is. -/
theorem exists_stay (forward : Forward size step) (rounds : Rounds step (count + 1) first last)
    (many : last < first + (count + 1)) :
    ∃ front back middle, front + back = count ∧ Rounds step front first middle ∧
      step middle middle ∧ Rounds step back middle last := by
  induction count generalizing first with
  | zero =>
    obtain ⟨middle, taken, rfl⟩ := rounds
    obtain rfl : middle = first := by
      have onwards := forward.le taken
      omega
    exact ⟨0, 0, middle, rfl, rfl, taken, rfl⟩
  | succ count ih =>
    obtain ⟨next, taken, others⟩ := rounds
    have onwards := forward.le taken
    by_cases stays : next = first
    · subst stays
      exact ⟨0, count + 1, next, Nat.zero_add _, rfl, taken, others⟩
    · obtain ⟨front, back, middle, total, before, stay, behind⟩ := ih others (by omega)
      exact ⟨front + 1, back, middle, by omega, ⟨next, taken, before⟩, stay, behind⟩

/-- Of more rounds than there are places one can be left out or done again. -/
theorem succ_iff (forward : Forward size step) (within : first ≤ size) (many : size < count) :
    Rounds step (count + 1) first last ↔ Rounds step count first last := by
  constructor
  · intro rounds
    have inside := (Rounds.forward forward _).within rounds within
    obtain ⟨front, back, middle, rfl, before, -, behind⟩ :=
      exists_stay forward rounds (by omega)
    exact add_iff.mpr ⟨middle, before, behind⟩
  · intro rounds
    have inside := (Rounds.forward forward _).within rounds within
    obtain ⟨fewer, rfl⟩ : ∃ fewer, count = fewer + 1 := ⟨count - 1, by omega⟩
    obtain ⟨front, back, middle, rfl, before, stay, behind⟩ :=
      exists_stay forward rounds (by omega)
    have again : Rounds step (back + 2) middle last := ⟨middle, stay, middle, stay, behind⟩
    show Rounds step (front + (back + 2)) first last
    exact add_iff.mpr ⟨middle, before, again⟩

/-- Numbers of rounds that are the same, or both greater than the number of places, lead to the same
places. -/
theorem congr (forward : Forward size step) (within : first ≤ size)
    (same : count = more ∨ size < count ∧ size < more) :
    Rounds step count first last ↔ Rounds step more first last := by
  have fromLeast : ∀ extra,
      Rounds step (size + 1 + extra) first last ↔ Rounds step (size + 1) first last := by
    intro extra
    induction extra with
    | zero => rfl
    | succ extra ih =>
      have many : size < size + 1 + extra := by omega
      exact (succ_iff forward within many).trans ih
  rcases same with rfl | ⟨many, manyMore⟩
  · rfl
  · obtain ⟨extra, rfl⟩ : ∃ extra, count = size + 1 + extra := ⟨count - (size + 1), by omega⟩
    obtain ⟨further, rfl⟩ : ∃ further, more = size + 1 + further := ⟨more - (size + 1), by omega⟩
    exact (fromLeast extra).trans (fromLeast further).symm

/-- Of a repetition no more rounds are needed, at first and behind the least number, than there are
places. -/
theorem exists_cut_iff (forward : Forward size step) (within : first ≤ size) {least : Nat}
    {most : Option Nat} :
    (∃ fewer, fewer ≤ cutOff size least most ∧
      Rounds step (min least (size + 1) + fewer) first last) ↔
      ∃ count, least ≤ count ∧ (∀ greatest ∈ most, count ≤ max least greatest) ∧
        Rounds step count first last := by
  constructor
  · rintro ⟨fewer, bound, rounds⟩
    refine ⟨least + fewer, Nat.le_add_right _ _, ?_, (congr forward within (by omega)).mp rounds⟩
    rintro greatest ⟨⟩
    simp only [cutOff] at bound
    omega
  · rintro ⟨count, enough, bounded, rounds⟩
    obtain ⟨extra, rfl⟩ : ∃ extra, count = least + extra := ⟨count - least, by omega⟩
    refine ⟨min extra (size + 1), ?_, (congr forward within (by omega)).mp rounds⟩
    cases most with
    | none => exact Nat.min_le_right _ _
    | some greatest =>
      have bound := bounded greatest rfl
      simp only [cutOff]
      omega

end Rounds

/-- A match never goes back, and does not leave the text. -/
theorem Regex.forward_matches (text : List Char) :
    ∀ regex : Regex, Forward text.length (regex.Matches text)
  | .empty => ⟨Nat.le_of_eq, fun same within => same ▸ within⟩
  | .char set => by
    refine ⟨?_, ?_⟩
    · rintro first last ⟨c, -, -, rfl⟩
      exact Nat.le_succ first
    · rintro first last ⟨c, here, -, rfl⟩ -
      exact (List.getElem?_eq_some_iff.mp here).1
  | .look condition => ⟨fun same => Nat.le_of_eq same.2, fun same within => same.2 ▸ within⟩
  | .concat front back => by
    have before := front.forward_matches text
    have behind := back.forward_matches text
    refine ⟨?_, ?_⟩
    · rintro first last ⟨middle, taken, onwards⟩
      exact Nat.le_trans (before.le taken) (behind.le onwards)
    · rintro first last ⟨middle, taken, onwards⟩ within
      exact behind.within onwards (before.within taken within)
  | .either left right =>
    ⟨fun taken => taken.elim (left.forward_matches text).le (right.forward_matches text).le,
      fun taken within => taken.elim
        (fun onLeft => (left.forward_matches text).within onLeft within)
        (fun onRight => (right.forward_matches text).within onRight within)⟩
  | .repeated least most body => by
    have rounds := Rounds.forward (body.forward_matches text)
    exact ⟨fun ⟨count, _, _, taken⟩ => (rounds count).le taken,
      fun ⟨count, _, _, taken⟩ within => (rounds count).within taken within⟩

/-! ## Places that are reached -/

namespace Places

/-- Whether a place is one of some places. -/
def Has (places : Places) (place : Nat) : Prop := places[place]? = some true

/-- What is done with the places of a text leads from a place to those in a relation to it. -/
structure Leads (size : Nat) (f : Places → Places) (move : Nat → Nat → Prop) : Prop where
  length : ∀ starts : Places, starts.length = size + 1 → (f starts).length = size + 1
  has : ∀ (starts : Places) (last : Nat), starts.length = size + 1 →
    ((f starts).Has last ↔ ∃ first, starts.Has first ∧ move first last)

variable {size : Nat} {f g : Places → Places} {move next : Nat → Nat → Prop}

/-- Places of either kind. -/
theorem has_or {a b : Places} (same : a.length = b.length) (place : Nat) :
    (a.or b).Has place ↔ a.Has place ∨ b.Has place := by
  unfold Has or
  rw [List.getElem?_zipWith]
  by_cases inside : place < a.length
  · rw [List.getElem?_eq_getElem inside, List.getElem?_eq_getElem (same ▸ inside)]
    simp
  · rw [List.getElem?_eq_none (by omega), List.getElem?_eq_none (by omega)]
    simp

namespace Leads

/-- Nothing at all leads from each place to itself. -/
theorem refl : Leads size (fun starts => starts) Eq :=
  ⟨fun _ same => same, by simp⟩

/-- One thing after the other. -/
theorem comp (first : Leads size f move) (second : Leads size g next) :
    Leads size (fun starts => g (f starts)) fun place last =>
      ∃ middle, move place middle ∧ next middle last := by
  refine ⟨fun starts same => second.length _ (first.length starts same),
    fun starts last same => (second.has _ last (first.length starts same)).trans ?_⟩
  simp only [first.has starts _ same]
  exact ⟨fun ⟨middle, ⟨place, start, taken⟩, onwards⟩ => ⟨place, start, middle, taken, onwards⟩,
    fun ⟨place, start, middle, taken, onwards⟩ => ⟨middle, ⟨place, start, taken⟩, onwards⟩⟩

/-- One thing or another. -/
theorem or (left : Leads size f move) (right : Leads size g next) :
    Leads size (fun starts => (f starts).or (g starts)) fun first last =>
      move first last ∨ next first last := by
  refine ⟨fun starts same => ?_, fun starts last same => ?_⟩
  · rw [Places.or, List.length_zipWith, left.length starts same, right.length starts same,
      Nat.min_self]
  · have lengths := (left.length starts same).trans (right.length starts same).symm
    rw [has_or lengths, left.has starts last same, right.has starts last same]
    simp only [and_or_left, exists_or]

/-- The same thing a number of times. -/
theorem times (once : Leads size f move) (count : Nat) :
    Leads size (Places.times f count) (Rounds move count) := by
  induction count with
  | zero => exact refl
  | succ count ih => exact once.comp ih

/-- The same thing up to a number of times. -/
theorem upTo (once : Leads size f move) (count : Nat) :
    Leads size (Places.upTo f count) fun first last =>
      ∃ fewer, fewer ≤ count ∧ Rounds move fewer first last := by
  induction count with
  | zero =>
    have stays : Leads size (Places.upTo f 0) Eq := refl
    simpa [Rounds] using stays
  | succ count ih =>
    have both : Leads size (Places.upTo f (count + 1)) _ := refl.or (once.comp ih)
    refine ⟨both.length, fun starts last same => (both.has starts last same).trans ?_⟩
    refine exists_congr fun first => and_congr_right fun _ => ⟨?_, ?_⟩
    · rintro (stays | ⟨middle, taken, fewer, bound, others⟩)
      · exact ⟨0, Nat.zero_le _, stays⟩
      · exact ⟨fewer + 1, Nat.succ_le_succ bound, middle, taken, others⟩
    · rintro ⟨_ | fewer, bound, rounds⟩
      · exact .inl rounds
      · obtain ⟨middle, taken, others⟩ := rounds
        exact .inr ⟨middle, taken, fewer, Nat.le_of_succ_le_succ bound, others⟩

end Leads

/-- A step over characters of a set leads behind each of them. -/
theorem leads_step (set : CharSet) (text : List Char) :
    Leads text.length (step set text) fun first last =>
      ∃ c, text[first]? = some c ∧ set.holds c.toNat = true ∧ last = first + 1 := by
  refine ⟨fun starts same => ?_, fun starts last same => ?_⟩
  · simp [Places.step, same]
  · unfold Has Places.step
    rcases last with _ | place
    · simp
    · rw [List.getElem?_cons_succ, List.getElem?_zipWith]
      constructor
      · intro reached
        cases start : starts[place]? with
        | none => simp [start] at reached
        | some isStart =>
          cases here : text[place]? with
          | none => simp [start, here] at reached
          | some c =>
            simp [start, here] at reached
            exact ⟨place, by rw [start, reached.1], c, here, reached.2, rfl⟩
      · rintro ⟨first, start, c, here, holds, next⟩
        obtain rfl := Nat.succ.inj next
        simp [start, here, holds]

/-- The places of a condition are those where it holds between the characters around them. -/
theorem getElem?_lookFrom (condition : Look) (text : List Char) (before : Option Char)
    {place : Nat} (within : place ≤ text.length) : (lookFrom condition before text)[place]? =
      some (condition.holds (charBefore before text place) text[place]?) := by
  induction text generalizing before place with
  | nil =>
    obtain rfl : place = 0 := Nat.le_zero.mp within
    rfl
  | cons c text ih =>
    rcases place with _ | place
    · rfl
    · rw [lookFrom, List.getElem?_cons_succ, ih _ (Nat.le_of_succ_le_succ within)]
      cases place <;> rfl

theorem length_lookFrom (condition : Look) (text : List Char) (before : Option Char) :
    (lookFrom condition before text).length = text.length + 1 := by
  induction text generalizing before with
  | nil => rfl
  | cons c text ih => rw [lookFrom, List.length_cons, ih, List.length_cons]

/-- Where a condition holds, it leads from a place to itself. -/
theorem leads_look (condition : Look) (text : List Char) :
    Leads text.length (fun starts => List.zipWith (· && ·) starts (lookFrom condition none text))
      fun first last =>
        condition.holds (charBefore none text first) text[first]? = true ∧ first = last := by
  refine ⟨fun starts same => ?_, fun starts last same => ?_⟩
  · rw [List.length_zipWith, same, length_lookFrom, Nat.min_self]
  · unfold Has
    rw [List.getElem?_zipWith]
    by_cases within : last ≤ text.length
    · have inside : last < starts.length := by omega
      rw [getElem?_lookFrom condition text none within, List.getElem?_eq_getElem inside]
      constructor
      · intro reached
        simp only [Option.some.injEq, Bool.and_eq_true] at reached
        exact ⟨last, by rw [List.getElem?_eq_getElem inside, reached.1], reached.2, rfl⟩
      · rintro ⟨first, start, holds, rfl⟩
        rw [List.getElem?_eq_getElem inside] at start
        simp [Option.some.inj start, holds]
    · rw [List.getElem?_eq_none (by omega)]
      refine ⟨nofun, ?_⟩
      rintro ⟨first, start, -, rfl⟩
      rw [List.getElem?_eq_none (by omega)] at start
      cases start

end Places

/-! ## Regular expressions -/

namespace Regex

open Places

/-- **The ends that are found are those to which a match leads** from one of the given places. -/
theorem leads_ends (text : List Char) :
    ∀ regex : Regex, Leads text.length (regex.ends text) (regex.Matches text)
  | .empty => .refl
  | .char set => leads_step set text
  | .look condition => leads_look condition text
  | .concat front back => (front.leads_ends text).comp (back.leads_ends text)
  | .either left right => (left.leads_ends text).or (right.leads_ends text)
  | .repeated least most body => by
    have once := body.leads_ends text
    have found := (once.times (min least (text.length + 1))).comp
      (once.upTo (cutOff text.length least most))
    refine ⟨found.length, fun starts last same => (found.has starts last same).trans ?_⟩
    refine exists_congr fun first => and_congr_right fun start => ?_
    have within : first ≤ text.length := by
      have inside := (List.getElem?_eq_some_iff.mp start).1
      omega
    refine Iff.trans ?_ (Rounds.exists_cut_iff (body.forward_matches text) within)
    simp only [Rounds.add_iff]
    exact ⟨fun ⟨middle, front, fewer, bound, back⟩ => ⟨fewer, bound, middle, front, back⟩,
      fun ⟨fewer, bound, middle, front, back⟩ => ⟨middle, front, fewer, bound, back⟩⟩

/-- **A match is found in a text exactly if there is one**, from one place of it to another. -/
theorem matchesIn_iff (regex : Regex) (text : List Char) :
    regex.matchesIn text = true ↔
      ∃ first last, first ≤ text.length ∧ regex.Matches text first last := by
  have found := (regex.leads_ends text).has (List.replicate (text.length + 1) true)
  have all : ∀ place, Has (List.replicate (text.length + 1) true) place ↔ place ≤ text.length := by
    intro place
    unfold Has
    rw [List.getElem?_replicate]
    simp only [Option.ite_none_right_eq_some, and_true, Nat.lt_succ_iff]
  rw [matchesIn, List.any_eq_true]
  simp only [id_eq, exists_eq_right, List.mem_iff_getElem?]
  rw [exists_comm]
  refine exists_congr fun last => ?_
  exact (found last List.length_replicate).trans (by simp only [all])

end Regex

end BundleFinish.Pattern
