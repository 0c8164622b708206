import BundleFinish.Proofs.JsonReading
import BundleFinish.Proofs.SchemaValues

/-! # Reading values of a schema

A text that spells a value is read as what the value means to the schema
(`Schema.ofJson_of_spells`). -/

namespace BundleFinish

open JsonText JsonText.Read

/-! ## Single values -/

namespace JsonText.Read

variable {α : Type}

/-- A string is read as its text, whatever stands behind it. -/
theorem yields_text (expected : String) {value : String} {gap spelled : List Char}
    (isGap : IsGap gap) (spells : SpellsString value spelled) (rest : List Char) :
    Yields (text expected) (gap ++ (spelled ++ rest)) value rest := by
  have read := yields_string spells rest
  obtain ⟨inner, -, rfl⟩ := spells
  refine .bind (.toValue isGap rfl) ?_
  rw [if_pos rfl]
  exact read

/-- The value that is nothing is read, whatever stands behind it. -/
theorem yields_unit {gap : List Char} (isGap : IsGap gap) (rest : List Char) :
    Yields unit (gap ++ ("null".toList ++ rest)) () rest :=
  .bind (.toValue isGap rfl) (.bind (.drop 'n' _) (.word _ rest))

/-- A string is taken for its text. -/
theorem takes_text (expected : String) {value : String} {spelled : List Char}
    (spells : SpellsString value spelled) : Takes (text expected) spelled value :=
  fun _ rest isGap _ => yields_text expected isGap spells rest

/-- A truth value is taken for itself. -/
theorem takes_bool (value : Bool) :
    Takes bool (if value then "true" else "false").toList value := by
  intro gap rest isGap _
  cases value with
  | true =>
    exact .bind (.toValue isGap rfl) (.bind (.drop 't' _) (.bind (.word _ rest) (.pure _ _)))
  | false =>
    exact .bind (.toValue isGap rfl) (.bind (.drop 'f' _) (.bind (.word _ rest) (.pure _ _)))

/-- A whole number within its limit and 64 bits is taken for itself. -/
theorem takes_unsigned {limit value : Nat} (expected : String) (fits : value ≤ limit)
    (wide : limit ≤ maxUnsigned) :
    Takes (unsigned limit expected) (toString value).toList value := by
  intro gap rest isGap follows
  have read := yields_number (le_trans fits wide) follows
  obtain ⟨c, others, shape, begins⟩ := exists_begins (show Spells (.unsigned value) _ from rfl)
  have isDigit : c.isDigit = true := begins
  rw [shape] at read ⊢
  refine .bind (.toValue isGap begins.solid.1) ?_
  rw [if_pos (.inr isDigit)]
  refine .bind read ?_
  dsimp only
  rw [if_pos fits]
  exact .pure value rest

/-- What is nothing is taken for nothing. -/
theorem takes_null (item : Read α) : Takes (optional item) "null".toList none := by
  intro gap rest isGap _
  refine .bind (.next isGap (by rintro c ⟨⟩; rfl)) ?_
  exact .bind (.drop 'n' _) (.bind (.word _ rest) (.pure none rest))

/-- What begins as something is taken for what its item is taken for. -/
theorem takes_some_of_begins {item : Read α} {c : Char} {others : List Char} {meant : α}
    (solid : isSpace c = false) (something : c ≠ 'n') (takes : Takes item (c :: others) meant) :
    Takes (optional item) (c :: others) (some meant) := by
  intro gap rest isGap follows
  have differs : some c ≠ some 'n' := fun same => something (Option.some.inj same)
  refine .bind (.next isGap (by rintro d ⟨⟩; exact solid)) ?_
  rw [List.cons_append, List.head?_cons, if_neg differs]
  exact .bind (takes [] rest nofun follows) (.pure _ rest)

/-- What is something is taken for what its item is taken for. -/
theorem takes_some {item : Read α} {value : Value} {spelled : List Char} {meant : α}
    (spells : Spells value spelled) (something : value ≠ .unit) (takes : Takes item spelled meant) :
    Takes (optional item) spelled (some meant) := by
  obtain ⟨c, others, rfl, begins⟩ := exists_begins spells
  refine takes_some_of_begins begins.solid.1 ?_ takes
  rintro rfl
  exact something begins.eq_unit

/-- A known name is read as what it names. -/
theorem yields_known {known : List (String × α)} {name : String} {meant : α}
    (isKnown : known.lookup name = some meant) {gap spelled : List Char} (isGap : IsGap gap)
    (spells : SpellsString name spelled) (rest : List Char) :
    Yields (do
      let name ← text "variant identifier"
      match known.lookup name with
      | some value => return value
      | none => fail (.unknownVariant name (known.map Prod.fst))) (gap ++ (spelled ++ rest)) meant
      rest := by
  refine .bind (yields_text _ isGap spells rest) ?_
  rw [isKnown]
  exact .pure meant rest

/-- One of some names is taken for what it names. -/
theorem takes_variant {depth : Nat} (deep : 1 ≤ depth) {known : List (String × α)} {name : String}
    {meant : α} (isKnown : known.lookup name = some meant) {value : Value}
    (named : value = .text name ∨ value = .map [(name, .unit)]) {spelled : List Char}
    (spells : Spells value spelled) : Takes (variant depth known) spelled meant := by
  intro gap rest isGap follows
  rcases named with rfl | rfl
  · have nothing : IsGap [] := nofun
    have read := yields_known isKnown nothing spells rest
    obtain ⟨inner, -, rfl⟩ := spells
    exact .bind (.next isGap (by rintro d ⟨⟩; rfl)) read
  · obtain ⟨parts, inner, ⟨key, front, back, _, _, spellsKey, isFront, isBack, rfl, rfl, rfl⟩,
      listed, rfl⟩ := spells
    cases listed with
    | @last before _ behind isBefore isBehind =>
      simp only [List.append_assoc, List.cons_append, List.nil_append]
      refine .bind (.next isGap (by rintro d ⟨⟩; rfl)) ?_
      rw [List.head?_cons, if_neg (by omega)]
      exact .bind (.drop '\x7b' _) (.bind (yields_known isKnown isBefore spellsKey _)
        (.bind (yields_colon isFront _) (.bind (yields_unit isBack _)
          (.bind (.next isBehind (by rintro d ⟨⟩; rfl))
            (.bind (.drop _ rest) (.pure meant rest))))))

/-! ## Lists -/

/-- Spelled items are items of a list for a reader that takes each for what it means. -/
theorem areItems_of_spells {read : Read α} {means : Value → α → Prop}
    (takes : ∀ {value meant}, means value meant → ∀ {spelled}, Spells value spelled →
      Takes read spelled meant)
    {values : List Value} {meant : List α} (each : List.Forall₂ means values meant)
    {parts : List (List Char)} (spells : SpellsItems values parts) :
    List.Forall₂ (IsItem read) parts meant := by
  induction each generalizing parts with
  | nil =>
    obtain rfl : parts = [] := spells
    exact .nil
  | cons first others ih =>
    obtain ⟨spelled, behind, spellsFirst, spellsOthers, rfl⟩ := spells
    obtain ⟨c, rest, shape, begins⟩ := exists_begins spellsFirst
    exact .cons ⟨⟨c, rest, shape, begins.solid⟩, takes first spellsFirst⟩ (ih spellsOthers)

/-- A spelled list is taken for what its items are taken for. -/
theorem takes_listOf {item : Read α} {parts : List (List Char)} {inner : List Char}
    {meant : List α} (listed : Listed parts inner) (each : List.Forall₂ (IsItem item) parts meant)
    {depth : Nat} (deep : depth ≠ 0) :
    Takes (listOf depth item) ('[' :: (inner ++ [']'])) meant := by
  intro gap rest isGap _
  simp only [List.append_assoc, List.cons_append, List.nil_append]
  refine .bind (.toValue isGap rfl) ?_
  rw [if_pos rfl]
  exact yields_list listed each deep rest

/-! ## Records -/

/-- An entry whose key is that of a field, and was not read before, is read as that field. -/
theorem isEntry_recordEntry {fields : FieldReader α} {key : String} {record next : α}
    {read : Read α} {seen : List String} (named : fields.named? key record = some read)
    (new : key ∉ seen) {name front back spelled : List Char} (spellsKey : SpellsString key name)
    (isFront : IsGap front) (isBack : IsGap back) (takes : Takes read spelled next) :
    IsEntry (recordEntry fields) (name ++ (front ++ ':' :: (back ++ spelled))) (seen, record)
      (key :: seen, next) := by
  refine ⟨key, name, _, rfl, spellsKey, fun rest follows => ?_⟩
  have unread : ¬seen.contains key = true := by simpa using new
  rw [recordEntry, named]
  dsimp only
  rw [if_neg unread, List.append_assoc, List.cons_append, List.append_assoc]
  exact .bind (yields_colon isFront _) (.bind (takes back rest isBack follows) (.pure _ rest))

/-- The entries of an object are read as fields, one after the other. -/
theorem areEntries_of_spells {fields : FieldReader α} {step : String → α → α}
    {entries : List (String × Value)} {parts : List (List Char)}
    (spells : SpellsEntries entries parts) (seen : List String) (record : α)
    (distinct : (entries.map Prod.fst).Nodup) (new : ∀ key ∈ entries.map Prod.fst, key ∉ seen)
    (each : ∀ entry ∈ entries, ∀ spelled, Spells entry.2 spelled → ∀ record,
      ∃ read, fields.named? entry.1 record = some read ∧ Takes read spelled (step entry.1 record)) :
    AreEntries (recordEntry fields) parts (seen, record)
      ((entries.map Prod.fst).reverse ++ seen,
        (entries.map Prod.fst).foldl (fun record key => step key record) record) := by
  induction entries generalizing parts seen record with
  | nil =>
    obtain rfl : parts = [] := spells
    exact .nil
  | cons entry entries ih =>
    obtain ⟨key, value⟩ := entry
    obtain ⟨name, front, back, spelled, others, spellsKey, isFront, isBack, spellsValue,
      spellsOthers, rfl⟩ := spells
    rw [List.map_cons, List.nodup_cons] at distinct
    obtain ⟨read, named, takes⟩ := each _ List.mem_cons_self spelled spellsValue record
    have first :=
      isEntry_recordEntry named (new key List.mem_cons_self) spellsKey isFront isBack takes
    have newOthers : ∀ other ∈ entries.map Prod.fst, other ∉ key :: seen := by
      intro other member read
      rcases List.mem_cons.mp read with rfl | earlier
      · exact distinct.1 member
      · exact new other (List.mem_cons_of_mem key member) earlier
    have behind := ih spellsOthers (key :: seen) (step key record) distinct.2 newOthers
      fun entry member => each entry (List.mem_cons_of_mem _ member)
    rw [List.map_cons, List.reverse_cons, List.append_assoc, List.foldl_cons]
    exact .cons first behind

/-- An object is taken for the record that its entries lead to, if no field is missing. -/
theorem takes_record {fields : FieldReader α} {start value : α} {parts : List (List Char)}
    {inner : List Char} {read : List String} (listed : Listed parts inner)
    (each : AreEntries (recordEntry fields) parts ([], start) (read, value))
    (complete : fields.missing? read = none) {depth : Nat} (deep : depth ≠ 0) :
    Takes (record fields start depth) ('\x7b' :: (inner ++ ['\x7d'])) value := by
  intro gap rest isGap _
  simp only [List.append_assoc, List.cons_append, List.nil_append]
  have ended : Yields objectEnd ('\x7d' :: rest) () rest :=
    .bind (.atNext rfl rest) (.drop '\x7d' rest)
  refine .bind (.toValue isGap rfl) ?_
  simp only [deep, if_false]
  refine .bind (.drop '\x7b' _) (.bind (.remaining _) (.bind (yields_entries listed each rest) ?_))
  simp only [complete]
  exact .bind ended (.pure value rest)

end JsonText.Read

/-! ## Schemas -/

/-- In entries with distinct keys each one is found by its key. -/
theorem Entries.get?_of_mem_of_nodup {α : Type} {entries : Entries α}
    (distinct : (entries.map Prod.fst).Nodup) {entry : String × α} (member : entry ∈ entries) :
    entries.get? entry.1 = some entry.2 := by
  induction entries with
  | nil => cases member
  | cons first rest ih =>
    rw [List.map_cons, List.nodup_cons] at distinct
    rcases List.mem_cons.mp member with rfl | later
    · rw [get?, if_pos rfl]
    · have differs : entry.1 ≠ first.1 :=
        fun same => distinct.1 (same ▸ List.mem_map_of_mem later)
      rw [get?, if_neg differs]
      exact ih distinct.2 later

/-- How the fields of a record are read, at the depth of the record. -/
def Fields.reader {α : Type} (fields : Fields α) (title : String) (depth : Nat) :
    FieldReader α where
  expected := s!"struct {title}"
  missing? := fields.missing?
  named? := fields.readNamed? (depth - 1)
  items := fields.readItems
    (fun count => .wrongLength count s!"struct {title} with {fields.countWords}") (depth - 1) 0

/-- A record is read with the readers of its fields. -/
theorem Schema.read_record {α : Type} (title : String) (start : α) (fields : Fields α)
    (depth : Nat) :
    (Schema.record title start fields).read depth =
      JsonText.Read.record (fields.reader title depth) start depth := by
  rw [Schema.read]
  rfl

mutual

/-- A spelled value is taken for what it means to a schema. -/
theorem Schema.takes {α : Type} : ∀ (schema : Schema α), schema.Regular →
    ∀ {depth : Nat}, schema.height ≤ depth →
    ∀ {value : Value} {meant : α}, schema.Means value meant →
    ∀ {spelled : List Char}, Spells value spelled → Takes (schema.read depth) spelled meant
  | .text expected, _, _, _, _, _, means, _, spells => by
    subst means
    exact takes_text expected spells
  | .path, _, _, _, _, _, means, _, spells => by
    obtain ⟨text, rfl, rfl⟩ := means
    intro gap rest isGap follows
    rw [Schema.read]
    exact .bind (takes_text "path string" spells gap rest isGap follows) (.pure _ rest)
  | .bool, _, _, _, _, meant, means, _, spells => by
    subst means spells
    exact takes_bool meant
  | .natural limit expected, wide, _, _, _, _, means, _, spells => by
    obtain ⟨rfl, fits⟩ := means
    subst spells
    exact takes_unsigned expected fits wide
  | .optional item, regular, depth, deep, value, none, means, _, spells => by
    subst means spells
    exact takes_null _
  | .optional item, regular, depth, deep, value, some meant, means, _, spells =>
    takes_some spells means.1 (item.takes regular.2 deep means.2 spells)
  | .list item, regular, depth, deep, value, meant, means, _, spells => by
    obtain ⟨values, rfl, each⟩ := means
    obtain ⟨parts, inner, spellsItems, listed, rfl⟩ := spells
    have deeper : item.height + 1 ≤ depth := deep
    exact takes_listOf listed
      (areItems_of_spells (item.takes regular (by omega)) each spellsItems) (by omega)
  | .variant title known name, _, _, deep, _, _, means, _, spells => by
    obtain ⟨name, named, isKnown⟩ := means
    exact takes_variant deep isKnown named spells
  | .record title start fields, regular, depth, deep, value, meant, means, _, spells => by
    obtain ⟨entries, rfl, distinct, known, mean⟩ := means
    obtain ⟨parts, inner, spellsEntries, listed, rfl⟩ := spells
    have deeper : fields.height + 1 ≤ depth := deep
    -- Each entry sets its own field to what is meant; the fields without one are so from the start.
    have readers : ∀ entry ∈ entries, ∀ spelled, Spells entry.2 spelled → ∀ record, ∃ read,
        (fields.reader title depth).named? entry.1 record = some read ∧
          Takes read spelled (fields.copied entry.1 meant record) :=
      fun entry member _ spells record => fields.exists_readNamed? regular.2.2 (by omega) mean
        (known entry member) (Entries.get?_of_mem_of_nodup distinct member) spells record
    have each : AreEntries (recordEntry (fields.reader title depth)) parts ([], start)
        ((entries.map Prod.fst).reverse ++ [],
          (entries.map Prod.fst).foldl (fun record key => fields.copied key meant record) start) :=
      areEntries_of_spells spellsEntries [] start distinct nofun readers
    rw [List.append_nil, Fields.foldl_copied regular.1 mean] at each
    rw [Schema.read_record]
    refine takes_record listed each (Fields.missing?_eq_none (fun key member => ?_) mean) (by omega)
    exact List.mem_reverse.mpr member

/-- A field with an entry has a reader, which takes what the entry spells for the field. -/
theorem Fields.exists_readNamed? {α : Type} : ∀ (fields : Fields α) {start : α},
    fields.Regular start → ∀ {depth : Nat}, fields.height ≤ depth →
    ∀ {entries : Entries Value} {meant : α}, fields.Mean entries start meant →
    ∀ {key : String} {value : Value}, key ∈ fields.names → entries.get? key = some value →
    ∀ {spelled : List Char}, Spells value spelled → ∀ record : α,
      ∃ read, fields.readNamed? depth key record = some read ∧
        Takes read spelled (fields.copied key meant record)
  | .nil, _, _, _, _, _, _, _, _, _, known, _, _, _, _ => absurd known List.not_mem_nil
  | .cons name need item get set isOmitted rest, start, regular, depth, deep, entries, meant, mean,
      key, value, known, found, spelled, spells, record => by
    have deeper : max item.height rest.height ≤ depth := deep
    rw [Fields.readNamed?, Fields.copied]
    by_cases here : key = name
    · subst here
      have means := mean.1
      rw [found] at means
      refine ⟨_, if_pos rfl, ?_⟩
      rw [if_pos rfl]
      intro gap behind isGap follows
      exact .bind (item.takes regular.1 (by omega) means spells gap behind isGap follows)
        (.pure _ behind)
    · rw [if_neg here, if_neg here]
      exact rest.exists_readNamed? regular.2.2 (by omega) mean.2
        ((List.mem_cons.mp known).resolve_left here) found spells record

end

/-- A whole text is read as what it is taken for, with any white space around it. -/
theorem Schema.ofJson_of_takes {α : Type} {schema : Schema α} {text : String}
    {front spelled back : List Char} {meant : α} (takes : Takes (schema.read maxDepth) spelled meant)
    (isFront : IsGap front) (isBack : IsGap back)
    (shape : text.toList = front ++ (spelled ++ back)) : schema.ofJson text = .ok meant := by
  have nothing : ∀ c ∈ ([] : List Char).head?, isSpace c = false := nofun
  have behind : Follows back := by
    have atEnd : Follows [] := nofun
    simpa using atEnd.append isBack
  have ended : Yields textEnd back () [] := by
    have skipped := Yields.next isBack nothing
    rw [List.append_nil] at skipped
    exact .bind skipped (.pure () [])
  have read : Yields (do let value ← schema.read maxDepth; textEnd; return value)
      (front ++ (spelled ++ back)) meant [] :=
    .bind (takes front back isFront behind) (.bind ended (.pure meant []))
  obtain ⟨line, column, whole⟩ := read 1 0
  rw [Schema.ofJson, run, Cursor.start, shape, whole]

/-- **A text that spells a value is read as what the value means**, with any white space around
it. -/
theorem Schema.ofJson_of_spells {α : Type} {schema : Schema α} (regular : schema.Regular)
    (deep : schema.height ≤ maxDepth) {value : Value} {meant : α} (means : schema.Means value meant)
    {text : String} (spells : SpelledBy value text) : schema.ofJson text = .ok meant := by
  obtain ⟨front, spelled, back, isFront, isBack, spells, shape⟩ := spells
  exact Schema.ofJson_of_takes (schema.takes regular deep means spells) isFront isBack shape

end BundleFinish
