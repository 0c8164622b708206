import BundleFinish.Proofs.SchemaWriting

/-! # Values that are read

What a schema reads fits it (`Schema.gives_read`), whatever the text is: a record is read from a
start that fits, and stays one that fits when one of its fields is set to a value that does. So
everything that is read can be written, and is read again as it was (`Schema.ofJson_toJson_of_ofJson`).
-/

namespace BundleFinish

open JsonText JsonText.Read

/-! ## Readers -/

namespace JsonText.Read

variable {α : Type} {property : α → Prop}

/-- A whole number that is read is within its limit. -/
theorem gives_unsigned (limit : Nat) (expected : String) :
    Gives (· ≤ limit) (unsigned limit expected) := by
  refine .of_bind fun c => ?_
  split
  · refine .of_bind fun number => ?_
    cases number with
    | unsigned value =>
      by_cases fits : value ≤ limit
      · simp only [fits, if_true]
        exact .pure fits
      · simp only [fits, if_false]
        exact .fail _
    | signed => exact .fail _
    | real => exact .fail _
  · exact gives_mismatch _ _

/-- What is read where nothing may stand is nothing, or what may stand there. -/
theorem gives_optional {item : Read α} {given : Option α → Prop} (none : given none)
    (some : Gives (fun value => given (some value)) item) : Gives given (optional item) := by
  refine .of_bind fun c => ?_
  split
  · exact .of_bind fun _ => .of_bind fun _ => .pure none
  · exact .bind _ some fun value holds => .pure holds

/-- The items of a list are what is read for items. -/
theorem gives_items {item : Read α} (each : Gives property item) (bound : Nat) (first : Bool) :
    Gives (fun values => ∀ value ∈ values, property value) (items item bound first) := by
  induction bound generalizing first with
  | zero => exact .pure nofun
  | succ bound ih =>
    refine .of_bind fun follows => ?_
    cases follows with
    | false => exact .pure nofun
    | true =>
      exact .bind _ each fun value holds => .bind _ (ih false) fun values others =>
        .pure (List.forall_mem_cons.mpr ⟨holds, others⟩)

/-- A list that is read holds what is read for items. -/
theorem gives_listOf {item : Read α} (each : Gives property item) (depth : Nat) :
    Gives (fun values => ∀ value ∈ values, property value) (listOf depth item) := by
  refine .of_bind fun c => ?_
  split
  · unfold list
    split
    · exact .failAhead _
    · exact .of_bind fun _ => .of_bind fun _ => .bind _ (gives_items each _ true)
        fun values all => .of_bind fun _ => .pure all
  · exact gives_mismatch _ _

/-- An entry that is read as a field, or read past, keeps what the field does. -/
theorem gives_recordEntry {fields : FieldReader α}
    (named : ∀ name record, property record → ∀ read, fields.named? name record = some read →
      Gives property read) (state : List String × α) (key : String) (holds : property state.2) :
    Gives (fun next => property next.2) (recordEntry fields state key) := by
  unfold recordEntry
  split
  case h_1 => exact .of_bind fun _ => .of_bind fun _ => .pure holds
  case h_2 read known =>
    split
    · exact .of_bind fun _ => .fail _
    · exact .of_bind fun _ => .bind _ (named key _ holds read known)
        fun record keeps => .pure keeps

/-- A record that is read is as the start, or as what the fields lead to. -/
theorem gives_record {fields : FieldReader α} {start : α} (holds : property start)
    (named : ∀ name record, property record → ∀ read, fields.named? name record = some read →
      Gives property read)
    (listed : ∀ record, property record → Gives property (fields.items record)) (depth : Nat) :
    Gives property (record fields start depth) := by
  refine .of_bind fun c => ?_
  split
  · split
    · exact .failAhead _
    · exact .of_bind fun _ => .bind _ (listed start holds) fun value keeps =>
        .of_bind fun _ => .pure keeps
  · split
    · exact .failAhead _
    · refine .of_bind fun _ => .of_bind fun _ => .bind _
        (gives_entries (gives_recordEntry named) _ true ([], start) holds) fun state keeps => ?_
      split
      case h_1 read value =>
        split
        · exact .of_bind fun _ => .fail _
        · exact .of_bind fun _ => .pure keeps
  · exact gives_mismatch _ _

/-- An item of a list that is read as a field, if there is one, keeps what the fields do. -/
theorem gives_recordItem {tooShort : Cause} {need : Need} {count : Nat} {value : α} {read : Read α}
    {others : α → Read α} (holds : property value) (field : Gives property read)
    (behind : ∀ record, property record → Gives property (others record)) :
    Gives property (recordItem tooShort need count value read others) := by
  refine .of_bind fun follows => ?_
  split
  · exact .bind _ field fun record keeps => behind record keeps
  · split
    · exact .pure holds
    · exact .of_bind fun _ => .fail _

end JsonText.Read

/-! ## Schemas -/

mutual

/-- The records of a schema fit at the start, and still do when a field is set to what fits it. -/
def Schema.Steady {α : Type} : Schema α → Prop
  | .optional item => item.Steady
  | .list item => item.Steady
  | .record _ start fields => fields.Fit start ∧ fields.Steady fields.Fit
  | .text _ | .path | .bool | .natural _ _ | .variant _ _ _ => True

/-- Setting a field to what fits it keeps what records have to be. -/
def Fields.Steady {α : Type} : Fields α → (fit : α → Prop) → Prop
  | .nil, _ => True
  | .cons _ _ item _ set _ rest, fit =>
    item.Steady ∧ (∀ record part, fit record → item.Fits part → fit (set record part)) ∧
      rest.Steady fit

end

mutual

/-- **What a schema reads fits it.** -/
theorem Schema.gives_read {α : Type} : ∀ (schema : Schema α), schema.Steady → ∀ depth : Nat,
    Gives schema.Fits (schema.read depth)
  | .text _, _, _ => by
    intro cursor rest value given
    trivial
  | .path, _, _ => by
    rw [Schema.read]
    exact .of_bind fun text => .pure (Path.isText_ofString text)
  | .bool, _, _ => by
    intro cursor rest value given
    trivial
  | .natural limit expected, _, _ => by
    rw [Schema.read]
    exact gives_unsigned limit expected
  | .optional item, steady, depth => by
    rw [Schema.read]
    exact gives_optional trivial (item.gives_read steady depth)
  | .list item, steady, depth => by
    rw [Schema.read]
    exact gives_listOf (item.gives_read steady (depth - 1)) depth
  | .variant _ _ _, _, _ => by
    intro cursor rest value given
    trivial
  | .record title start fields, steady, depth => by
    rw [Schema.read_record]
    exact gives_record steady.1
      (fun name record fits read known =>
        fields.gives_readNamed? steady.2 (depth - 1) name record fits read known)
      (fun record fits => fields.gives_readItems steady.2 _ (depth - 1) 0 record fits) depth

/-- Reading a field keeps what records have to be. -/
theorem Fields.gives_readNamed? {α : Type} : ∀ (fields : Fields α) {fit : α → Prop},
    fields.Steady fit → ∀ (depth : Nat) (name : String) (record : α), fit record →
      ∀ read, fields.readNamed? depth name record = some read → Gives fit read
  | .nil, _, _, _, _, _, _, _, known => nomatch known
  | .cons other _ item _ set _ rest, fit, steady, depth, name, record, fits, read, known => by
    rw [Fields.readNamed?] at known
    split at known
    · obtain rfl := Option.some.inj known
      exact .bind _ (item.gives_read steady.1 depth) fun part here =>
        .pure (steady.2.1 record part fits here)
    · exact rest.gives_readNamed? steady.2.2 depth name record fits read known

/-- Reading the items of a list as fields keeps what records have to be. -/
theorem Fields.gives_readItems {α : Type} : ∀ (fields : Fields α) {fit : α → Prop},
    fields.Steady fit → ∀ (tooShort : Nat → Cause) (depth count : Nat) (record : α), fit record →
      Gives fit (fields.readItems tooShort depth count record)
  | .nil, _, _, _, _, _, _, fits => by
    rw [Fields.readItems]
    exact .pure fits
  | .cons _ need item _ set _ rest, fit, steady, tooShort, depth, count, record, fits => by
    rw [Fields.readItems]
    refine gives_recordItem fits ?_ fun next keeps =>
      rest.gives_readItems steady.2.2 tooShort depth (count + 1) next keeps
    exact .bind _ (item.gives_read steady.1 depth) fun part here =>
      .pure (steady.2.1 record part fits here)

end

/-- **What is read from any text is read again as it was** when it is written. -/
theorem Schema.ofJson_toJson_of_ofJson {α : Type} {schema : Schema α} (regular : schema.Regular)
    (steady : schema.Steady) (deep : schema.height ≤ maxDepth) {text : String} {value : α}
    (read : schema.ofJson text = .ok value) : schema.ofJson (schema.toJson value) = .ok value :=
  schema.ofJson_toJson regular deep ((schema.gives_read steady maxDepth).of_run read)

end BundleFinish
