import BundleFinish.JsonText.Write
import BundleFinish.Proofs.Encoding
import BundleFinish.Proofs.SchemaReading
import Mathlib.Data.List.Forall2
import Mathlib.Data.List.Induction

/-! # Writing values of a schema

What a schema writes for a value that fits it means that value: the JSON text spells a value that
does (`Schema.ofJson_toJson`), and so does the form that needs no schema (`Schema.means_toValue`).
-/

namespace BundleFinish

open JsonText JsonText.Read

/-! ## Written texts -/

namespace JsonText

/-- A character is written in one of its spellings. -/
theorem spellsChar_character (c : Char) : SpellsChar c (Write.character c) := by
  have control : ∀ code < 32, fourDigits? (['0', '0'] ++ (if code < 16 then ['0'] else []) ++
      Text.hexadecimal code) = some code := by decide +kernel
  have ofCode : ∀ code, c.toNat = code → c = Char.ofNat code := by
    rintro code rfl
    exact (Char.ofNat_toNat c).symm
  have lead : "\\u00".toList = ['\\', 'u', '0', '0'] := by decide
  unfold Write.character
  split_ifs with quote backslash newline carriageReturn tab backspace formFeed small half
  · subst quote
    exact .short (by decide)
  · subst backslash
    exact .short (by decide)
  · subst newline
    exact .short (by decide)
  · subst carriageReturn
    exact .short (by decide)
  · subst tab
    exact .short (by decide)
  · obtain rfl := ofCode 8 backspace
    exact .short (by decide)
  · obtain rfl := ofCode 12 formFeed
    exact .short (by decide)
  · have code := control c.toNat small
    rw [if_pos half] at code
    rw [lead]
    exact .unit code
  · have code := control c.toNat small
    rw [if_neg half] at code
    rw [lead]
    exact .unit code
  · exact .plain (by omega) quote backslash

/-- The characters of a text are written in their spellings. -/
theorem spellsChars_flatMap (text : List Char) :
    SpellsChars text (text.flatMap Write.character) := by
  induction text with
  | nil => exact .nil
  | cons c text ih =>
    rw [List.flatMap_cons]
    exact .cons (spellsChar_character c) ih

/-- A string is written in one of its spellings. -/
theorem spellsString_string (text : String) : SpellsString text (Write.string text).toList :=
  ⟨text.toList.flatMap Write.character, spellsChars_flatMap text.toList, by simp [Write.string]⟩

/-- Parts with commas between them and no white space. -/
theorem listed_intercalate (parts : List (List Char)) : Listed parts ([','].intercalate parts) := by
  have nothing : IsGap [] := nofun
  induction parts with
  | nil => exact .none nothing
  | cons part others ih =>
    rcases others with _ | ⟨next, others⟩
    · have last : Listed [part] ([] ++ (part ++ [])) := .last nothing nothing
      simpa using last
    · have more : Listed (part :: next :: others)
          ([] ++ (part ++ ([] ++ ',' :: [','].intercalate (next :: others)))) :=
        .more nothing nothing ih
      rw [List.intercalate_cons_cons]
      simpa using more

/-- A list is written as its items. -/
theorem exists_listed_list (items : List String) :
    ∃ inner, Listed (items.map String.toList) inner ∧
      (Write.list items).toList = '[' :: (inner ++ [']']) :=
  ⟨_, listed_intercalate _, by simp [Write.list, String.toList_intercalate]⟩

/-- An entry of an object as it is written. -/
def writtenEntry (entry : String × String) : List Char :=
  (Write.string entry.1).toList ++ ':' :: entry.2.toList

/-- An object is written as its entries. -/
theorem exists_listed_object (entries : List (String × String)) :
    ∃ inner, Listed (entries.map writtenEntry) inner ∧
      (Write.object entries).toList = '\x7b' :: (inner ++ ['\x7d']) := by
  refine ⟨_, listed_intercalate _, ?_⟩
  simp [Write.object, String.toList_intercalate, Function.comp_def]
  rfl

end JsonText

/-! ## Values that fit -/

mutual

/-- A value can be written by a schema: its numbers are within their limits, and its paths are
text. -/
def Schema.Fits {α : Type} : Schema α → α → Prop
  | .path, value => value.IsText
  | .natural limit _, value => value ≤ limit
  | .optional _, none => True
  | .optional item, some value => item.Fits value
  | .list item, values => ∀ value ∈ values, item.Fits value
  | .record _ _ fields, value => fields.Fit value
  | .text _, _ | .bool, _ | .variant _ _ _, _ => True

/-- The fields of a record can be written. -/
def Fields.Fit {α : Type} : Fields α → α → Prop
  | .nil, _ => True
  | .cons _ _ item get _ _ rest, value => item.Fits (get value) ∧ rest.Fit value

end

/-- Nothing but a value that is optional is meant by nothing. -/
theorem Schema.ne_unit_of_means {α : Type} {schema : Schema α} (solid : schema.isOptional = false)
    {value : Value} {meant : α} (means : schema.Means value meant) : value ≠ .unit := by
  rintro rfl
  cases schema with
  | optional => cases solid
  | text | bool => cases (show _ = _ from means)
  | natural => cases means.1
  | path | list | record =>
    obtain ⟨_, unlike, _⟩ := means
    cases unlike
  | variant =>
    obtain ⟨_, unlike | unlike, _⟩ := means <;> cases unlike

namespace Fields

variable {α β : Type} {name : String} {need : Need} {item : Schema β} {get : α → β}
  {set : α → β → α} {isOmitted : β → Bool} {rest fields : Fields α} {entries others : Entries Value}
  {start meant : α} {value : Value}

/-- Entries with the same values for the names of fields mean the same. -/
theorem Mean.congr : ∀ {fields : Fields α}, fields.Mean entries start meant →
    (∀ name ∈ fields.names, others.get? name = entries.get? name) → fields.Mean others start meant
  | .nil, _, _ => trivial
  | .cons name _ _ _ _ _ rest, mean, same => by
    refine ⟨?_, mean.2.congr fun key member => same key (List.mem_cons_of_mem name member)⟩
    rw [same name List.mem_cons_self]
    exact mean.1

/-- An entry for the first field in front of those for the others. -/
theorem Mean.cons_entry (new : name ∉ rest.names) (means : item.Means value (get meant))
    (mean : rest.Mean entries start meant) :
    (Fields.cons name need item get set isOmitted rest).Mean ((name, value) :: entries) start
      meant := by
  constructor
  · rw [Entries.get?, if_pos rfl]
    exact means
  · refine mean.congr fun key member => ?_
    have differs : key ≠ name := fun same => new (same ▸ member)
    rw [Entries.get?, if_neg differs]

/-- No entry for the first field, which is as at the start. -/
theorem Mean.cons_omitted (absent : ∀ entry ∈ entries, entry.1 ≠ name) (optional : need ≠ .always)
    (same : get meant = get start) (mean : rest.Mean entries start meant) :
    (Fields.cons name need item get set isOmitted rest).Mean entries start meant := by
  refine ⟨?_, mean⟩
  rw [Entries.get?_eq_none absent]
  exact ⟨optional, same⟩

end Fields

/-! ## JSON texts -/

/-- Items that each spell a value that means them spell a list of such values. -/
theorem JsonText.exists_spellsItems {α : Type} {means : Value → α → Prop} {write : α → String}
    {items : List α}
    (each : ∀ item ∈ items, ∃ value, means value item ∧ Spells value (write item).toList) :
    ∃ values, List.Forall₂ means values items ∧
      SpellsItems values ((items.map write).map String.toList) := by
  induction items with
  | nil => exact ⟨[], .nil, rfl⟩
  | cons item items ih =>
    obtain ⟨value, means, spells⟩ := each item List.mem_cons_self
    obtain ⟨values, others, spellsOthers⟩ := ih fun other member =>
      each other (List.mem_cons_of_mem item member)
    exact ⟨value :: values, .cons means others, _, _, spells, spellsOthers, rfl⟩

mutual

/-- What a schema writes for a value that fits spells a value that means it. -/
theorem Schema.exists_spells_toJson {α : Type} : ∀ (schema : Schema α), schema.Regular →
    ∀ {meant : α}, schema.Fits meant →
    ∃ value, schema.Means value meant ∧ Spells value (schema.toJson meant).toList
  | .text _, _, meant, _ => by
    rw [Schema.toJson]
    exact ⟨.text meant, rfl, spellsString_string meant⟩
  | .path, _, meant, isText => by
    rw [Schema.toJson]
    exact ⟨.text meant.display, ⟨_, rfl, isText.ofString_display.symm⟩, spellsString_string _⟩
  | .bool, _, meant, _ => by
    rw [Schema.toJson]
    exact ⟨.bool meant, rfl, rfl⟩
  | .natural _ _, _, meant, fits => by
    rw [Schema.toJson]
    exact ⟨.unsigned meant, ⟨rfl, fits⟩, rfl⟩
  | .optional _, _, none, _ => by
    rw [Schema.toJson]
    exact ⟨.unit, rfl, rfl⟩
  | .optional item, regular, some meant, fits => by
    obtain ⟨value, means, spells⟩ := item.exists_spells_toJson regular.2 fits
    rw [Schema.toJson]
    exact ⟨value, ⟨Schema.ne_unit_of_means regular.1 means, means⟩, spells⟩
  | .list item, regular, meant, fits => by
    obtain ⟨values, each, spells⟩ := JsonText.exists_spellsItems fun part member =>
      item.exists_spells_toJson regular (fits part member)
    obtain ⟨inner, listed, written⟩ := exists_listed_list (meant.map item.toJson)
    rw [Schema.toJson]
    exact ⟨.list values, ⟨values, rfl, each⟩, _, inner, spells, listed, written⟩
  | .variant _ _ name, regular, meant, _ => by
    rw [Schema.toJson]
    exact ⟨.text (name meant), ⟨_, .inl rfl, regular meant⟩, spellsString_string _⟩
  | .record _ start fields, regular, meant, fits => by
    obtain ⟨entries, spells, ordered, mean⟩ :=
      fields.exists_spells_toJson regular.2.2 regular.2.1 fits
    obtain ⟨inner, listed, written⟩ := exists_listed_object (fields.toJson meant)
    rw [Schema.toJson]
    refine ⟨.map entries, ⟨entries, rfl, ordered.nodup regular.2.1, fun entry member => ?_, mean⟩,
      _, inner, spells, listed, written⟩
    exact ordered.subset (List.mem_map_of_mem member)

/-- What is written for the fields of a record spells entries that mean it, in the order of the
fields. -/
theorem Fields.exists_spells_toJson {α : Type} : ∀ (fields : Fields α) {start : α},
    fields.Regular start → fields.names.Nodup → ∀ {meant : α}, fields.Fit meant →
    ∃ entries, SpellsEntries entries ((fields.toJson meant).map writtenEntry) ∧
      (entries.map Prod.fst).Sublist fields.names ∧ fields.Mean entries start meant
  | .nil, _, _, _, _, _ => ⟨[], rfl, .slnil, trivial⟩
  | .cons name need item get set isOmitted rest, start, regular, distinct, meant, fits => by
    have new : name ∉ rest.names := (List.nodup_cons.mp distinct).1
    obtain ⟨entries, spells, ordered, mean⟩ :=
      rest.exists_spells_toJson regular.2.2 (List.nodup_cons.mp distinct).2 fits.2
    rw [Fields.toJson]
    split_ifs with omitted
    -- What is left out is as at the start, and nothing has to be written for it.
    · obtain ⟨optional, same⟩ := regular.2.1 _ omitted
      refine ⟨entries, spells, ordered.cons name, mean.cons_omitted (fun entry member here => ?_)
        optional same⟩
      exact new (ordered.subset (here ▸ List.mem_map_of_mem member))
    · obtain ⟨value, means, spellsValue⟩ := item.exists_spells_toJson regular.1 fits.1
      have nothing : IsGap [] := nofun
      exact ⟨(name, value) :: entries,
        ⟨_, [], [], _, _, spellsString_string name, nothing, nothing, spellsValue, spells, rfl⟩,
        ordered.cons_cons name, mean.cons_entry new means⟩

end

/-- **What a schema writes as JSON is read back**, for every value that fits. -/
theorem Schema.ofJson_toJson {α : Type} {schema : Schema α} (regular : schema.Regular)
    (deep : schema.height ≤ maxDepth) {meant : α} (fits : schema.Fits meant) :
    schema.ofJson (schema.toJson meant) = .ok meant := by
  obtain ⟨value, means, spells⟩ := schema.exists_spells_toJson regular fits
  have nothing : IsGap [] := nofun
  exact Schema.ofJson_of_spells regular deep means
    ⟨[], _, [], nothing, nothing, spells, by simp⟩

/-! ## Values without a schema -/

/-- No key comes twice in sorted entries. -/
theorem Entries.Sorted.nodup_keys {α : Type} {entries : Entries α} (sorted : entries.Sorted) :
    (entries.map Prod.fst).Nodup :=
  List.pairwise_map.mpr (sorted.imp fun before => before.ne)

/-- Of two lists of entries, the first one is searched first. -/
theorem Entries.get?_append {α : Type} (key : String) (front back : Entries α) :
    Entries.get? key (front ++ back) = (front.get? key).or (back.get? key) := by
  induction front with
  | nil => rfl
  | cons entry front ih =>
    rw [List.cons_append, get?, get?, ih]
    split_ifs <;> rfl

/-- In entries that are put together, each is found as in the list, where no key comes twice. -/
theorem Entries.get?_ofList {α : Type} {list : List (String × α)}
    (distinct : (list.map Prod.fst).Nodup) (key : String) :
    (Entries.ofList list).get? key = Entries.get? key list := by
  induction list using List.reverseRecOn with
  | nil => rfl
  | append_singleton front entry ih =>
    have inFront : (front.map Prod.fst).Nodup := by
      rw [List.map_append] at distinct
      exact (List.nodup_append.mp distinct).1
    have put : Entries.ofList (front ++ [entry]) =
        (Entries.ofList front).insert entry.1 entry.2 := by
      rw [ofList, List.foldl_append]
      rfl
    rw [put]
    by_cases here : key = entry.1
    · subst here
      rw [get?_insert_self]
      exact (get?_of_mem_of_nodup distinct (by simp)).symm
    · rw [get?_insert_of_ne here, ih inFront, get?_append, get?, if_neg here, get?, Option.or_none]

mutual

/-- The form of a value that needs no schema means the value, if it fits. -/
theorem Schema.means_toValue {α : Type} : ∀ (schema : Schema α), schema.Regular →
    ∀ {meant : α}, schema.Fits meant → schema.Means (schema.toValue meant) meant
  | .text _, _, _, _ => by
    rw [Schema.toValue]
    rfl
  | .path, _, meant, isText => by
    rw [Schema.toValue]
    exact ⟨_, rfl, isText.ofString_display.symm⟩
  | .bool, _, _, _ => by
    rw [Schema.toValue]
    rfl
  | .natural _ _, _, _, fits => by
    rw [Schema.toValue]
    exact ⟨rfl, fits⟩
  | .optional _, _, none, _ => by
    rw [Schema.toValue]
    rfl
  | .optional item, regular, some meant, fits => by
    have means := item.means_toValue regular.2 fits
    rw [Schema.toValue]
    exact ⟨Schema.ne_unit_of_means regular.1 means, means⟩
  | .list item, regular, meant, fits => by
    rw [Schema.toValue]
    refine ⟨_, rfl, List.forall₂_map_left_iff.mpr (List.forall₂_same.mpr fun part member => ?_)⟩
    exact item.means_toValue regular (fits part member)
  | .variant _ _ name, regular, meant, _ => by
    rw [Schema.toValue]
    exact ⟨_, .inl rfl, regular meant⟩
  | .record _ start fields, regular, meant, fits => by
    obtain ⟨ordered, mean⟩ := fields.mean_toEntries regular.2.2 regular.2.1 fits
    have distinct := ordered.nodup regular.2.1
    -- The entries are put in the order of their keys, and every look-up finds what it found before.
    rw [Schema.toValue]
    refine ⟨_, rfl, (Entries.Sorted.ofList _).nodup_keys, fun entry member => ?_,
      mean.congr fun key _ => Entries.get?_ofList distinct key⟩
    exact ordered.subset (List.mem_map_of_mem (Entries.mem_of_mem_ofList member))

/-- The entries for the fields of a record mean it, in the order of the fields. -/
theorem Fields.mean_toEntries {α : Type} : ∀ (fields : Fields α) {start : α},
    fields.Regular start → fields.names.Nodup → ∀ {meant : α}, fields.Fit meant →
    ((fields.toEntries meant).map Prod.fst).Sublist fields.names ∧
      fields.Mean (fields.toEntries meant) start meant
  | .nil, _, _, _, _, _ => by
    rw [Fields.toEntries]
    exact ⟨.slnil, trivial⟩
  | .cons name need item get set isOmitted rest, start, regular, distinct, meant, fits => by
    have new : name ∉ rest.names := (List.nodup_cons.mp distinct).1
    obtain ⟨ordered, mean⟩ :=
      rest.mean_toEntries regular.2.2 (List.nodup_cons.mp distinct).2 fits.2
    rw [Fields.toEntries]
    split_ifs with omitted
    · obtain ⟨optional, same⟩ := regular.2.1 _ omitted
      refine ⟨ordered.cons name, mean.cons_omitted (fun entry member here => ?_) optional same⟩
      exact new (ordered.subset (here ▸ List.mem_map_of_mem member))
    · exact ⟨ordered.cons_cons name, mean.cons_entry new (item.means_toValue regular.1 fits.1)⟩

end

end BundleFinish
