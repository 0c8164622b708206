import BundleFinish.Proofs.SchemaReading

/-! # Taking values of a schema out of settings

The settings that a value stands for give what the value means (`Schema.extract_ofValue`). -/

namespace BundleFinish

open Settings

namespace Settings.Extract

variable {α : Type} {key : List String} {origin : Origin}

/-- What is not nothing is taken out as what it may be. -/
theorem optional_ofValue (item : Extract α) {value : Value} (something : value ≠ .unit) :
    optional item key (.ofValue origin value) =
      (item key (.ofValue origin value)).map some := by
  have chosen : optional item key (.ofValue origin value) =
      (do return some (← item key (.ofValue origin value))) := by
    cases value with
    | unit => exact absurd rfl something
    | _ => rfl
  rw [chosen]
  cases item key (.ofValue origin value) <;> rfl

/-- The items of a list are taken out one by one. -/
theorem items_eq_ok {item : Extract α} {means : Value → α → Prop}
    (taken : ∀ {value meant}, means value meant → ∀ key,
      item key (.ofValue origin value) = .ok meant)
    {values : List Value} {meant : List α} (each : List.Forall₂ means values meant)
    (number : Nat) : items item origin key number values = .ok meant := by
  induction each generalizing number with
  | nil => rfl
  | cons first others ih =>
    rw [items, taken first, ih]
    rfl

/-- Fields are taken out of entries one after the other. -/
theorem fields_ofEntries {field? : String → α → Option (Extract α)} {step : String → α → α}
    {entries : List (String × Value)}
    (each : ∀ entry ∈ entries, ∀ record, ∃ field, field? entry.1 record = some field ∧
      field (key ++ [entry.1]) (.ofValue origin entry.2) = .ok (step entry.1 record))
    (record : α) :
    fields field? key (Setting.ofEntries origin entries) record =
      .ok ((entries.map Prod.fst).foldl (fun record name => step name record) record) := by
  induction entries generalizing record with
  | nil => rfl
  | cons entry entries ih =>
    obtain ⟨field, known, taken⟩ := each entry List.mem_cons_self record
    have others := ih (fun other member => each other (List.mem_cons_of_mem entry member))
      (step entry.1 record)
    rw [Setting.ofEntries, fields, known]
    dsimp only
    rw [taken]
    exact others

end Settings.Extract

mutual

/-- **The settings that a value stands for give what the value means**, in whatever layer. -/
theorem Schema.extract_ofValue {α : Type} : ∀ (schema : Schema α), schema.Regular →
    ∀ {value : Value} {meant : α}, schema.Means value meant →
    ∀ (key : List String) (origin : Origin),
      schema.extract key (.ofValue origin value) = .ok meant
  | .text _, _, _, _, means, key, origin => by
    subst means
    rw [Schema.extract]
    rfl
  | .path, _, _, _, means, key, origin => by
    obtain ⟨text, rfl, rfl⟩ := means
    rw [Schema.extract]
    rfl
  | .bool, _, _, _, means, key, origin => by
    subst means
    rw [Schema.extract]
    rfl
  | .natural limit expected, _, _, _, means, key, origin => by
    obtain ⟨rfl, fits⟩ := means
    rw [Schema.extract]
    exact if_pos fits
  | .optional _, _, _, none, means, key, origin => by
    subst means
    rw [Schema.extract]
    rfl
  | .optional item, regular, _, some meant, means, key, origin => by
    rw [Schema.extract, Extract.optional_ofValue _ means.1,
      item.extract_ofValue regular.2 means.2]
    rfl
  | .list item, regular, _, meant, means, key, origin => by
    obtain ⟨values, rfl, each⟩ := means
    rw [Schema.extract]
    exact Extract.items_eq_ok (fun means key => item.extract_ofValue regular means key origin)
      each 0
  | .variant title known name, _, _, meant, means, key, origin => by
    obtain ⟨name, rfl | rfl, isKnown⟩ := means
    · rw [Schema.extract]
      simp only [Extract.variant, Setting.ofValue, isKnown]
    · rw [Schema.extract]
      simp only [Extract.variant, Setting.ofValue, Setting.ofEntries, isKnown]
      rfl
  | .record title start fields, regular, _, meant, means, key, origin => by
    obtain ⟨entries, rfl, distinct, known, mean⟩ := means
    have each : ∀ entry ∈ entries, ∀ record, ∃ field,
        fields.extractField? entry.1 record = some field ∧
          field (key ++ [entry.1]) (.ofValue origin entry.2) =
            .ok (fields.copied entry.1 meant record) :=
      fun entry member record => fields.exists_extractField?_ofValue regular.2.2 mean
        (known entry member) (Entries.get?_of_mem_of_nodup distinct member) _ origin record
    have complete : fields.missing? ((Setting.ofEntries origin entries).map Prod.fst) = none := by
      have names : (Setting.ofEntries origin entries).map Prod.fst = entries.map Prod.fst := by
        rw [Setting.ofEntries_eq_map, List.map_map]
        rfl
      rw [names]
      exact Fields.missing?_eq_none (fun _ member => member) mean
    have taken : Extract.fields fields.extractField? key (Setting.ofEntries origin entries) start =
        .ok ((entries.map Prod.fst).foldl (fun record name => fields.copied name meant record)
          start) := Extract.fields_ofEntries each start
    rw [Fields.foldl_copied regular.1 mean] at taken
    rw [Setting.ofValue, Schema.extract]
    simp only [taken, complete]
    rfl

/-- A field with an entry is taken out of the settings of the entry. -/
theorem Fields.exists_extractField?_ofValue {α : Type} : ∀ (fields : Fields α) {start : α},
    fields.Regular start → ∀ {entries : Entries Value} {meant : α},
    fields.Mean entries start meant → ∀ {name : String} {value : Value}, name ∈ fields.names →
    entries.get? name = some value → ∀ (key : List String) (origin : Origin) (record : α),
      ∃ field, fields.extractField? name record = some field ∧
        field key (.ofValue origin value) = .ok (fields.copied name meant record)
  | .nil, _, _, _, _, _, _, _, known, _, _, _, _ => absurd known List.not_mem_nil
  | .cons known need item get set isOmitted rest, start, regular, entries, meant, mean, name, value,
      isKnown, found, key, origin, record => by
    rw [Fields.extractField?, Fields.copied]
    by_cases here : name = known
    · subst here
      have means := mean.1
      rw [found] at means
      refine ⟨_, if_pos rfl, ?_⟩
      rw [if_pos rfl, item.extract_ofValue regular.1 means]
      rfl
    · rw [if_neg here, if_neg here]
      exact rest.exists_extractField?_ofValue regular.2.2 mean.2
        ((List.mem_cons.mp isKnown).resolve_left here) found key origin record

end

end BundleFinish
