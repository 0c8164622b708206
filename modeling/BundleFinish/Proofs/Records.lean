import BundleFinish.Proofs.MergedSettings

/-! # Records out of settings

A record is taken out of the entries of a group, in the order of the entries. A field of a record
that no other field touches (`Fields.HasField`) comes out as the entry with its name says, or stays
as it was where there is none (`Fields.HasField.eq_of_extract`); the entries around it do not
matter. -/

namespace BundleFinish

open Settings

/-! ## Fields that no other field touches -/

namespace Fields

variable {α β : Type}

/-- Setting a field does not change what a view of the record shows. -/
inductive Keeps (view : α → β) : Fields α → Prop
  | nil : Keeps view .nil
  | cons {γ : Type} {name : String} {need : Need} {item : Schema γ} {get : α → γ}
      {set : α → γ → α} {isOmitted : γ → Bool} {rest : Fields α}
      (same : ∀ record value, view (set record value) = view record) (keeps : Keeps view rest) :
      Keeps view (.cons name need item get set isOmitted rest)

/-- A view of a record shows a field with a name and a schema, and nothing of the other fields. -/
inductive HasField (name : String) (item : Schema β) (view : α → β) : Fields α → Prop
  | here {need : Need} {get : α → β} {set : α → β → α} {isOmitted : β → Bool} {rest : Fields α}
      (shown : ∀ record value, view (set record value) = value) (keeps : Keeps view rest) :
      HasField name item view (.cons name need item get set isOmitted rest)
  | there {γ : Type} {other : String} {need : Need} {item' : Schema γ} {get : α → γ}
      {set : α → γ → α} {isOmitted : γ → Bool} {rest : Fields α} (differ : name ≠ other)
      (same : ∀ record value, view (set record value) = view record)
      (later : HasField name item view rest) :
      HasField name item view (.cons other need item' get set isOmitted rest)

variable {name : String} {item : Schema β} {view : α → β} {fields : Fields α} {key : List String}
  {setting : Setting} {record next : α} {field : Extract α}

/-- What no field changes is not changed by taking out a field. -/
theorem Keeps.eq_of_extractField? (keeps : Keeps view fields)
    (known : fields.extractField? name record = some field)
    (done : field key setting = .ok next) : view next = view record := by
  -- The reader is that of the first field with the name, and no field changes the view.
  induction keeps with
  | nil => cases known
  | @cons γ other need item get set isOmitted rest same keeps ih =>
    rw [extractField?] at known
    by_cases here : name = other
    · rw [if_pos here] at known
      obtain rfl := Option.some.inj known
      obtain ⟨value, _, given⟩ := exists_of_bind_eq_ok done
      rw [← Except.ok.inj given, same]
    · rw [if_neg here] at known
      exact ih known

namespace HasField

/-- Every record has a reader for the field. -/
theorem exists_extractField? (has : HasField name item view fields) (record : α) :
    ∃ field, fields.extractField? name record = some field := by
  induction has with
  | here => exact ⟨_, by rw [extractField?, if_pos rfl]⟩
  | there differ same later ih =>
    rw [extractField?, if_neg differ]
    exact ih

/-- Taking out the field itself gives what its schema takes out. -/
theorem extract_of_extractField? (has : HasField name item view fields)
    (known : fields.extractField? name record = some field)
    (done : field key setting = .ok next) : item.extract key setting = .ok (view next) := by
  induction has with
  | here shown keeps =>
    rw [extractField?, if_pos rfl] at known
    obtain rfl := Option.some.inj known
    obtain ⟨value, taken, given⟩ := exists_of_bind_eq_ok done
    rw [taken, ← Except.ok.inj given, shown]
  | there differ same later ih =>
    rw [extractField?, if_neg differ] at known
    exact ih known

/-- Taking out the field itself fails as its schema does. -/
theorem extractField?_eq_error {failure : Failure} (has : HasField name item view fields)
    (known : fields.extractField? name record = some field)
    (refused : item.extract key setting = .error failure) :
    field key setting = .error failure := by
  induction has with
  | here shown keeps =>
    rw [extractField?, if_pos rfl] at known
    obtain rfl := Option.some.inj known
    simp only [refused]
    rfl
  | there differ same later ih =>
    rw [extractField?, if_neg differ] at known
    exact ih known

/-- Taking out another field does not change what the view shows. -/
theorem eq_of_extractField? {other : String} (has : HasField name item view fields)
    (differ : other ≠ name) (known : fields.extractField? other record = some field)
    (done : field key setting = .ok next) : view next = view record := by
  induction has with
  | here shown keeps =>
    -- The reader is of a field behind, and those keep the view.
    rw [extractField?, if_neg differ] at known
    exact keeps.eq_of_extractField? known done
  | @there γ another need item' get set isOmitted rest _ same later ih =>
    rw [extractField?] at known
    by_cases here : other = another
    · rw [if_pos here] at known
      obtain rfl := Option.some.inj known
      obtain ⟨value, _, given⟩ := exists_of_bind_eq_ok done
      rw [← Except.ok.inj given, same]
    · rw [if_neg here] at known
      exact ih known

/-- What a view shows of a record that was taken out of entries: what the entry with the name of its
field says, and what it showed at first where there is no such entry. -/
theorem eq_of_extract {entries : Entries Setting} (has : HasField name item view fields)
    (sorted : entries.Sorted)
    (done : Extract.fields fields.extractField? key entries record = .ok next) :
    match entries.get? name with
    | none => view next = view record
    | some setting => item.extract (key ++ [name]) setting = .ok (view next) := by
  -- By induction on the entries, over the record that the entries in front have led to.
  induction entries generalizing record with
  | nil => rw [← Except.ok.inj done]; rfl
  | cons first rest ih =>
    obtain ⟨other, setting⟩ := first
    have sortedRest := (List.pairwise_cons.mp sorted).2
    rw [Entries.get?]
    rw [Extract.fields] at done
    by_cases same : name = other
    · subst same
      obtain ⟨field, known⟩ := has.exists_extractField? record
      rw [known] at done
      obtain ⟨middle, taken, others⟩ := exists_of_bind_eq_ok done
      -- The name does not come again, so the rest leaves the view alone.
      have kept := ih sortedRest others
      rw [sorted.get?_tail_eq_none] at kept
      rw [if_pos rfl]
      show item.extract (key ++ [name]) setting = .ok (view next)
      rw [has.extract_of_extractField? known taken, kept]
    · rw [if_neg same]
      cases known : fields.extractField? other record with
      | none =>
        rw [known] at done
        exact ih sortedRest done
      | some field =>
        rw [known] at done
        obtain ⟨middle, taken, others⟩ := exists_of_bind_eq_ok done
        rw [← has.eq_of_extractField? (Ne.symm same) known taken]
        exact ih sortedRest others

end HasField

/-! ## Records that can be taken out -/

/-- What is given for the name of a field is what the field asks for. -/
inductive Accepts (key : List String) (given : String → Option Setting) : Fields α → Prop
  | nil : Accepts key given .nil
  | cons {γ : Type} {name : String} {need : Need} {item : Schema γ} {get : α → γ}
      {set : α → γ → α} {isOmitted : γ → Bool} {rest : Fields α}
      (first : ∀ setting, given name = some setting →
        ∃ value, item.extract (key ++ [name]) setting = .ok value)
      (others : Accepts key given rest) :
      Accepts key given (.cons name need item get set isOmitted rest)

/-- What is given for a name can be taken out if it is what its field asks for. -/
theorem Accepts.exists_extractField? {given : String → Option Setting}
    (accepts : fields.Accepts key given) (found : given name = some setting)
    (known : fields.extractField? name record = some field) :
    ∃ next, field (key ++ [name]) setting = .ok next := by
  induction accepts with
  | nil => cases known
  | @cons γ other need item get set isOmitted rest first others ih =>
    rw [extractField?] at known
    by_cases here : name = other
    · subst here
      rw [if_pos rfl] at known
      obtain rfl := Option.some.inj known
      obtain ⟨value, taken⟩ := first setting found
      exact ⟨set record value, by simp only [taken]; rfl⟩
    · rw [if_neg here] at known
      exact ih known

/-- Entries that are what their fields ask for can all be taken out. -/
theorem Accepts.exists_extract {entries : Entries Setting}
    (accepts : fields.Accepts key fun name => entries.get? name) (sorted : entries.Sorted)
    (record : α) : ∃ next, Extract.fields fields.extractField? key entries record = .ok next := by
  -- By induction on how many entries are left, over the record that those in front have led to.
  have step : ∀ (left : Entries Setting),
      (∀ entry ∈ left, entries.get? entry.1 = some entry.2) → ∀ record : α,
        ∃ next, Extract.fields fields.extractField? key left record = .ok next := by
    intro left
    induction left with
    | nil => exact fun _ record => ⟨record, rfl⟩
    | cons first rest ih =>
      intro among record
      obtain ⟨name, setting⟩ := first
      have onwards := ih fun entry member => among entry (List.mem_cons_of_mem _ member)
      rw [Extract.fields]
      cases known : fields.extractField? name record with
      | none => exact onwards record
      | some field =>
        obtain ⟨middle, taken⟩ :=
          accepts.exists_extractField? (among _ List.mem_cons_self) known
        obtain ⟨next, done⟩ := onwards middle
        exact ⟨next, by simp only [taken]; exact done⟩
  exact step entries (fun entry member => sorted.get?_of_mem member) record

/-- Where one field alone is refused, the record is refused for its reason. -/
theorem HasField.extract_eq_error {entries : Entries Setting} {failure : Failure}
    (has : HasField name item view fields) (sorted : entries.Sorted)
    (found : entries.get? name = some setting)
    (refused : item.extract (key ++ [name]) setting = .error failure)
    (others : fields.Accepts key fun other => if other = name then none else entries.get? other)
    (record : α) : Extract.fields fields.extractField? key entries record = .error failure := by
  -- By induction on how many entries are left, which have the refused one among them.
  have step : ∀ (left : Entries Setting),
      (∀ entry ∈ left, entries.get? entry.1 = some entry.2) → (name, setting) ∈ left →
        ∀ record : α,
          Extract.fields fields.extractField? key left record = .error failure := by
    intro left
    induction left with
    | nil => exact fun _ member => absurd member List.not_mem_nil
    | cons first rest ih =>
      intro among member record
      obtain ⟨other, current⟩ := first
      have here := among _ List.mem_cons_self
      have onwards := ih fun entry member => among entry (List.mem_cons_of_mem _ member)
      rw [Extract.fields]
      by_cases same : other = name
      · subst same
        obtain rfl : setting = current := Option.some.inj (found.symm.trans here)
        obtain ⟨field, known⟩ := has.exists_extractField? record
        rw [known]
        show field (key ++ [other]) setting >>= _ = _
        rw [has.extractField?_eq_error known refused]
        rfl
      · have later : (name, setting) ∈ rest := (List.mem_cons.mp member).resolve_left
          fun eq => same (congrArg Prod.fst eq).symm
        cases known : fields.extractField? other record with
        | none => exact onwards later record
        | some field =>
          obtain ⟨middle, taken⟩ :=
            others.exists_extractField? ((if_neg same).trans here) known
          simp only [taken]
          exact onwards later middle
  exact step entries (fun entry member => sorted.get?_of_mem member)
    (Entries.mem_of_get? found) record

end Fields

/-! ## Whole records -/

namespace Schema

/-- A view of the records of a schema shows a field with a name and a schema, and nothing of the
other fields. -/
inductive HasField {α β : Type} (name : String) (item : Schema β) (view : α → β) : Schema α → Prop
  | record {title : String} {start : α} {fields : Fields α}
      (has : fields.HasField name item view) : HasField name item view (.record title start fields)

variable {α : Type} {title : String} {start : α} {fields : Fields α} {key : List String}
  {origin : Origin} {entries : Entries Setting}

/-- A record has in each field what an entry says, or what it has at the start. -/
def Filled (schema : Schema α) (key : List String) (entries : Entries Setting) (start record : α) :
    Prop :=
  ∀ {β : Type} {name : String} {item : Schema β} {view : α → β}, HasField name item view schema →
    view record = ((entries.get? name).bind fun setting =>
      (item.extract (key ++ [name]) setting).toOption).getD (view start)

/-- **A record comes out of a group** whose entries are what the fields ask for, if no field is
missing. -/
theorem exists_extract_record (accepts : fields.Accepts key fun name => entries.get? name)
    (sorted : entries.Sorted) (complete : fields.missing? (entries.map Prod.fst) = none) :
    ∃ record, (Schema.record title start fields).extract key (.group origin entries) = .ok record ∧
      (Schema.record title start fields).Filled key entries start record := by
  obtain ⟨record, done⟩ := accepts.exists_extract sorted start
  refine ⟨record, ?_, ?_⟩
  · rw [extract]
    simp only [done, complete]
    rfl
  · rintro β name item view ⟨has⟩
    have shown := has.eq_of_extract sorted done
    cases here : entries.get? name with
    | none =>
      rw [here] at shown
      exact shown
    | some setting =>
      -- The match in `shown` is on what was found, so it is stated anew.
      rw [here] at shown
      have shown : item.extract (key ++ [name]) setting = .ok (view record) := shown
      rw [Option.bind_some, shown]
      rfl

/-- A group that lacks a field is refused. -/
theorem extract_record_eq_missing {name : String}
    (accepts : fields.Accepts key fun name => entries.get? name) (sorted : entries.Sorted)
    (missing : fields.missing? (entries.map Prod.fst) = some name) :
    (Schema.record title start fields).extract key (.group origin entries) =
      .error ⟨.missingField name, key, some origin⟩ := by
  obtain ⟨record, done⟩ := accepts.exists_extract sorted start
  rw [extract]
  simp only [done, missing]
  rfl

/-- A group is something, and it is what a schema takes out of it. -/
theorem extract_optional_group (item : Schema α) :
    (Schema.optional item).extract key (.group origin entries) =
      (item.extract key (.group origin entries)).map some := by
  rw [extract]
  show (item.extract key (.group origin entries) >>= fun value => pure (some value)) = _
  cases item.extract key (.group origin entries) <;> rfl

/-- A record is refused for the reason of a field, if that is the one field that is refused. -/
theorem extract_record_eq_error {β : Type} {name : String} {item : Schema β} {view : α → β}
    {setting : Setting} {failure : Failure}
    (has : HasField name item view (.record title start fields)) (sorted : entries.Sorted)
    (found : entries.get? name = some setting)
    (refused : item.extract (key ++ [name]) setting = .error failure)
    (others : fields.Accepts key fun other => if other = name then none else entries.get? other) :
    (Schema.record title start fields).extract key (.group origin entries) = .error failure := by
  obtain ⟨has⟩ := has
  rw [extract]
  simp only [has.extract_eq_error sorted found refused others]
  rfl

end Schema

/-! ## Plain values -/

/-- The schema of a value that is no record. -/
inductive Schema.IsPlain : {α : Type} → Schema α → Prop
  | text (expected : String) : IsPlain (.text expected)
  | path : IsPlain .path
  | bool : IsPlain .bool
  | natural (limit : Nat) (expected : String) : IsPlain (.natural limit expected)
  | optional {α : Type} {item : Schema α} (plain : IsPlain item) : IsPlain (.optional item)
  | list {α : Type} (item : Schema α) : IsPlain (.list item)
  | variant {α : Type} (title : String) (known : List (String × α)) (name : α → String) :
      IsPlain (.variant title known name)

/-- Plain values are not taken out of groups in which nothing is nothing. Only the names of variants
stand as groups at all, and then with nothing under them. -/
theorem Schema.IsPlain.isLeaf {α : Type} {schema : Schema α} (plain : schema.IsPlain)
    {key : List String} {setting : Setting} {value : α} (tidy : setting.Tidy (· ≠ .unit))
    (taken : schema.extract key setting = .ok value) : setting.IsLeaf := by
  cases setting with
  | leaf origin value => exact ⟨origin, value, rfl⟩
  | group origin entries =>
    exfalso
    -- Most plain schemas refuse any group; what is optional is as what it may be.
    induction plain with
    | text => cases taken
    | path => cases taken
    | bool => cases taken
    | natural => cases taken
    | list => cases taken
    | optional _ ih =>
      obtain ⟨inner, taken, _⟩ := exists_of_bind_eq_ok taken
      exact ih taken
    | variant title known name =>
      rcases entries with _ | ⟨⟨found, content⟩, others⟩
      · cases taken
      · obtain ⟨value', _, given⟩ := exists_of_bind_eq_ok taken
        split at given
        · -- The name has nothing under it, as no setting here has.
          obtain @⟨_, _, something⟩ : Setting.Tidy (· ≠ .unit) (.leaf _ .unit) :=
            tidy.of_mem_entries List.mem_cons_self
          exact something rfl
        · cases given

end BundleFinish
