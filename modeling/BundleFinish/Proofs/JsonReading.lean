import BundleFinish.Proofs.JsonLexemes

/-! # Reading lists and objects

A list is taken for the items that its parts are taken for (`JsonText.Read.yields_list`), and an
object for what its entries lead to, one after the other (`JsonText.Read.yields_entries`). -/

namespace BundleFinish.JsonText.Read

variable {α σ : Type}

/-! ## Lists -/

/-- A reader takes a spelling for a value, behind any white space and in front of whatever may stand
behind a value. -/
def Takes (read : Read α) (spelled : List Char) (value : α) : Prop :=
  ∀ gap rest, IsGap gap → Follows rest → Yields read (gap ++ (spelled ++ rest)) value rest

/-- Another item of a list follows. -/
theorem yields_itemFollows {first : Bool} {lead front rest : List Char} {c : Char}
    (leads : Leads first lead) (isFront : IsGap front) (solid : isSpace c = false)
    (notEnd : c ≠ ']') :
    Yields (itemFollows first) (lead ++ (front ++ c :: rest)) true (c :: rest) := by
  have toItem : Yields next (front ++ c :: rest) (some c) (c :: rest) :=
    .next isFront (by simpa using solid)
  cases first with
  | true =>
    obtain rfl : lead = [] := leads
    refine .bind toItem ?_
    simp only [if_true]
    exact .pure true _
  | false =>
    obtain ⟨gap, isGap, rfl⟩ : ∃ gap, IsGap gap ∧ lead = gap ++ [','] := leads
    rw [List.append_assoc, List.singleton_append]
    refine .bind (.next isGap (by rintro d ⟨⟩; rfl)) (.bind (.drop ',' _) (.bind toItem ?_))
    simp only
    exact .pure true _

/-- No item follows. -/
theorem yields_itemFollows_end (first : Bool) {gap : List Char} (isGap : IsGap gap)
    (rest : List Char) : Yields (itemFollows first) (gap ++ ']' :: rest) false (']' :: rest) :=
  .bind (.next isGap (by rintro d ⟨⟩; rfl)) (.pure false _)

variable {item : Read α} {parts : List (List Char)} {inner : List Char} {values : List α}

/-- The spelling of an item of a list, and what it is taken for. -/
structure IsItem (item : Read α) (part : List Char) (value : α) : Prop where
  begins : ∃ c rest, part = c :: rest ∧ isSpace c = false ∧ c ≠ ']'
  takes : Takes item part value

/-- Another item is read, and then those behind it. -/
theorem yields_items_cons {part front behind rest : List Char} {value : α}
    (isItem : IsItem item part value)
    {first : Bool} {lead : List Char} (leads : Leads first lead) (isFront : IsGap front)
    (follows : Follows behind) {bound : Nat}
    (others : Yields (items item bound false) behind values rest) :
    Yields (items item (bound + 1) first) (lead ++ (front ++ (part ++ behind))) (value :: values)
      rest := by
  obtain ⟨⟨c, more, rfl, solid, notEnd⟩, takes⟩ := isItem
  refine .bind (yields_itemFollows leads isFront solid notEnd) ?_
  rw [if_pos rfl]
  exact .bind (takes [] behind nofun follows) (.bind others (.pure _ _))

/-- Where no item follows, none is read. -/
theorem yields_items_end (bound : Nat) (first : Bool) {gap : List Char} (isGap : IsGap gap)
    (rest : List Char) :
    Yields (items item (bound + 1) first) (gap ++ ']' :: rest) [] (']' :: rest) :=
  .bind (yields_itemFollows_end first isGap rest) (.pure [] _)

/-- A spelled list is taken for its items. -/
theorem yields_list (listed : Listed parts inner) (each : List.Forall₂ (IsItem item) parts values)
    {depth : Nat} (deep : depth ≠ 0) (rest : List Char) :
    Yields (list depth item) ('[' :: (inner ++ ']' :: rest)) values rest := by
  have read : Yields (items item ((inner ++ ']' :: rest).length + 1) true) (inner ++ ']' :: rest)
      values (']' :: rest) := by
    refine listed.through (List.cons_ne_nil _ _) (follows_bracket rest) (motive := fun bound first
      parts text => ∀ values, List.Forall₂ (IsItem item) parts values →
        Yields (items item bound first) text values (']' :: rest)) ?_ ?_ values each
    · rintro bound first gap isGap _ ⟨⟩
      exact yields_items_end bound first isGap rest
    · rintro bound first lead front part behind others leads isFront follows ih _
        (_ | ⟨isItem, each⟩)
      exact yields_items_cons isItem leads isFront follows (ih _ each)
  have ended : Yields listEnd (']' :: rest) () rest :=
    .bind (.atNext rfl rest) (.drop ']' rest)
  unfold list
  rw [if_neg deep]
  exact .bind (.drop '[' _) (.bind (.remaining _) (.bind read (.bind ended (.pure values rest))))

/-! ## Objects -/

/-- The spelling of an entry of an object, and the states between which it leads. -/
structure IsEntry (entry : σ → String → Read σ) (part : List Char) (before after : σ) : Prop where
  exists_yields : ∃ key name behind, part = name ++ behind ∧ SpellsString key name ∧
    ∀ rest, Follows rest → Yields (entry before key) (behind ++ rest) after rest

/-- The spellings of entries, and the states between which they lead. -/
inductive AreEntries (entry : σ → String → Read σ) : List (List Char) → σ → σ → Prop
  | nil {state : σ} : AreEntries entry [] state state
  | cons {part : List Char} {parts : List (List Char)} {before middle after : σ}
      (first : IsEntry entry part before middle) (others : AreEntries entry parts middle after) :
      AreEntries entry (part :: parts) before after

/-- Another key follows. -/
theorem yields_keyFollows {first : Bool} {lead front : List Char} (leads : Leads first lead)
    (isFront : IsGap front) (rest : List Char) :
    Yields (keyFollows first) (lead ++ (front ++ '"' :: rest)) true ('"' :: rest) := by
  have toKey : Yields next (front ++ '"' :: rest) (some '"') ('"' :: rest) :=
    .next isFront (by rintro c ⟨⟩; rfl)
  cases first with
  | true =>
    obtain rfl : lead = [] := leads
    exact .bind toKey (.pure true _)
  | false =>
    obtain ⟨gap, isGap, rfl⟩ : ∃ gap, IsGap gap ∧ lead = gap ++ [','] := leads
    rw [List.append_assoc, List.singleton_append]
    exact .bind (.next isGap (by rintro c ⟨⟩; rfl))
      (.bind (.drop ',' _) (.bind toKey (.pure true _)))

/-- No key follows. -/
theorem yields_keyFollows_end (first : Bool) {gap : List Char} (isGap : IsGap gap)
    (rest : List Char) :
    Yields (keyFollows first) (gap ++ '\x7d' :: rest) false ('\x7d' :: rest) :=
  .bind (.next isGap (by rintro c ⟨⟩; rfl)) (.pure false _)

/-- The colon behind a key is taken up. -/
theorem yields_colon {gap : List Char} (isGap : IsGap gap) (rest : List Char) :
    Yields colon (gap ++ ':' :: rest) () rest :=
  .bind (.next isGap (by rintro c ⟨⟩; rfl)) (.drop ':' rest)

variable {entry : σ → String → Read σ} {before middle after : σ}

/-- Another entry is read, and then those behind it. -/
theorem yields_entries_cons {part front behind rest : List Char}
    (isEntry : IsEntry entry part before middle) {first : Bool} {lead : List Char}
    (leads : Leads first lead) (isFront : IsGap front) (follows : Follows behind) {bound : Nat}
    (others : Yields (entries entry bound false middle) behind after rest) :
    Yields (entries entry (bound + 1) first before) (lead ++ (front ++ (part ++ behind))) after
      rest := by
  obtain ⟨key, name, content, rfl, spells, read⟩ := isEntry
  have named := yields_string spells (content ++ behind)
  obtain ⟨inner, -, rfl⟩ := spells
  rw [List.append_assoc]
  refine .bind (yields_keyFollows leads isFront _) ?_
  rw [if_pos rfl]
  exact .bind named (.bind (read behind follows) others)

/-- Where no entry follows, none is read. -/
theorem yields_entries_end (bound : Nat) (first : Bool) (state : σ) {gap : List Char}
    (isGap : IsGap gap) (rest : List Char) :
    Yields (entries entry (bound + 1) first state) (gap ++ '\x7d' :: rest) state
      ('\x7d' :: rest) :=
  .bind (yields_keyFollows_end first isGap rest) (.pure state _)

/-- The entries of an object are read up to its end. -/
theorem yields_entries (listed : Listed parts inner) (each : AreEntries entry parts before after)
    (rest : List Char) :
    Yields (entries entry ((inner ++ '\x7d' :: rest).length + 1) true before)
      (inner ++ '\x7d' :: rest) after ('\x7d' :: rest) := by
  refine listed.through (List.cons_ne_nil _ _) (follows_brace rest) (motive := fun bound first
    parts text => ∀ before, AreEntries entry parts before after →
      Yields (entries entry bound first before) text after ('\x7d' :: rest)) ?_ ?_ before each
  · rintro bound first gap isGap _ ⟨⟩
    exact yields_entries_end bound first _ isGap rest
  · rintro bound first lead front part behind others leads isFront follows ih _
      (_ | ⟨isEntry, each⟩)
    exact yields_entries_cons isEntry leads isFront follows (ih _ each)

end BundleFinish.JsonText.Read
