import BundleFinish.JsonText.Lexical
import BundleFinish.Proofs.Records

/-! # What values mean to a schema

A value can mean a value of a schema (`Schema.Means`): an object means a record if its keys are
fields of the record, no key comes twice, each entry means what the record has in that field, and
the other fields, none of which has to be given, are as at the start. Such a record is what the
start becomes when the fields of the entries are copied from it, in any order
(`Fields.foldl_copied`). -/

namespace BundleFinish

open Settings

/-! ## Meaning -/

/-- The names of the fields of a record. -/
def Fields.names {α : Type} : Fields α → List String
  | .nil => []
  | .cons name _ _ _ _ _ rest => name :: rest.names

mutual

/-- A value means a value of a schema. A name out of a list stands as a text, or as the only key of
an object, with nothing as its entry. -/
def Schema.Means {α : Type} : Schema α → Value → α → Prop
  | .text _, value, meant => value = .text meant
  | .path, value, meant => ∃ text, value = .text text ∧ meant = .ofString text
  | .bool, value, meant => value = .bool meant
  | .natural limit _, value, meant => value = .unsigned meant ∧ meant ≤ limit
  | .optional _, value, none => value = .unit
  | .optional item, value, some meant => value ≠ .unit ∧ item.Means value meant
  | .list item, value, meant =>
    ∃ values, value = .list values ∧ List.Forall₂ item.Means values meant
  | .variant _ known _, value, meant =>
    ∃ name, (value = .text name ∨ value = .map [(name, .unit)]) ∧ known.lookup name = some meant
  | .record _ start fields, value, meant =>
    ∃ entries, value = .map entries ∧ (entries.map Prod.fst).Nodup ∧
      (∀ entry ∈ entries, entry.1 ∈ fields.names) ∧ fields.Mean entries start meant

/-- Entries mean the fields of a record: each is as its entry says, or, where there is none and none
is required, as at the start. -/
def Fields.Mean {α : Type} : Fields α → Entries Value → (start : α) → (meant : α) → Prop
  | .nil, _, _, _ => True
  | .cons name need item get _ _ rest, entries, start, meant =>
    (match entries.get? name with
      | some value => item.Means value (get meant)
      | none => need ≠ .always ∧ get meant = get start) ∧
    rest.Mean entries start meant

end

/-! ## Fields that are copied -/

namespace Fields

variable {α β : Type} {fields : Fields α} {name key : String} {item : Schema β} {view : α → β}

/-- A record with the field of a name copied from another record. -/
def copied : Fields α → (name : String) → (source record : α) → α
  | .nil, _, _, record => record
  | .cons known _ _ get set _ rest, name, source, record =>
    if name = known then set record (get source) else rest.copied name source record

/-- Setting a field to what it is changes nothing. -/
def SetsBack : Fields α → Prop
  | .nil => True
  | .cons _ _ _ get set _ rest => (∀ record, set record (get record) = record) ∧ rest.SetsBack

/-- The fields of a record that are not given are as at the start. -/
def AsAtStart : Fields α → (given : String → Prop) → (start meant : α) → Prop
  | .nil, _, _, _ => True
  | .cons name _ _ get _ _ rest, given, start, meant =>
    (¬given name → get meant = get start) ∧ rest.AsAtStart given start meant

/-- A record is nothing but its fields. -/
structure Lawful (fields : Fields α) : Prop where
  setsBack : fields.SetsBack
  ext : ∀ a b : α, (∀ {β : Type} {name : String} {item : Schema β} {view : α → β},
    HasField name item view fields → view a = view b) → a = b

/-- What no field changes is not changed by copying a field. -/
theorem Keeps.view_copied (keeps : Keeps view fields) (key : String) (source record : α) :
    view (fields.copied key source record) = view record := by
  induction keeps with
  | nil => rfl
  | cons same keeps ih =>
    unfold copied
    split_ifs
    · exact same _ _
    · exact ih

namespace HasField

/-- The view of a field shows what the field is copied from. -/
theorem view_copied (has : HasField name item view fields) (setsBack : fields.SetsBack)
    (key : String) (source record : α) :
    view (fields.copied key source record) = if key = name then view source else view record := by
  induction has with
  | here shown keeps =>
    unfold copied
    split_ifs
    · rw [shown]
      conv_rhs => rw [← setsBack.1 source, shown]
    · exact keeps.view_copied key source record
  | @there γ other need item' get set isOmitted rest differ same later ih =>
    rw [copied]
    by_cases here : key = other
    · rw [if_pos here, same, if_neg (here.symm ▸ differ.symm)]
    · rw [if_neg here, ih setsBack.2]

/-- The view of a field that is not given shows what it shows at the start. -/
theorem view_eq_of_not_given (has : HasField name item view fields) (setsBack : fields.SetsBack)
    {given : String → Prop} {start meant : α} (asAtStart : fields.AsAtStart given start meant)
    (absent : ¬given name) : view meant = view start := by
  induction has with
  | @here need get set isOmitted rest shown keeps =>
    have same : ∀ record, view record = get record := by
      intro record
      conv_lhs => rw [← setsBack.1 record, shown]
    rw [same, same]
    exact asAtStart.1 absent
  | there differ same later ih => exact ih setsBack.2 asAtStart.2

/-- The view of a field behind some copies. -/
theorem view_foldl_copied (has : HasField name item view fields) (setsBack : fields.SetsBack)
    (keys : List String) (source record : α) :
    view (keys.foldl (fun record key => fields.copied key source record) record) =
      if name ∈ keys then view source else view record := by
  induction keys generalizing record with
  | nil => rw [if_neg List.not_mem_nil]; rfl
  | cons key keys ih =>
    rw [List.foldl_cons, ih, has.view_copied setsBack]
    by_cases later : name ∈ keys
    · rw [if_pos later, if_pos (List.mem_cons_of_mem key later)]
    · rw [if_neg later]
      simp only [List.mem_cons, later, or_false, eq_comm]

end HasField

/-- A record is what the start becomes when the fields that are given are copied from it. -/
theorem foldl_copied_of_asAtStart (lawful : fields.Lawful) {keys : List String} {start meant : α}
    (asAtStart : fields.AsAtStart (· ∈ keys) start meant) :
    keys.foldl (fun record key => fields.copied key meant record) start = meant := by
  refine lawful.ext _ _ fun {β name item view} has => ?_
  rw [has.view_foldl_copied lawful.setsBack]
  split_ifs with given
  · rfl
  · exact (has.view_eq_of_not_given lawful.setsBack asAtStart given).symm

/-- The fields without entries are as at the start. -/
theorem Mean.asAtStart {entries : Entries Value} {start meant : α} :
    ∀ {fields : Fields α}, fields.Mean entries start meant →
      fields.AsAtStart (· ∈ entries.map Prod.fst) start meant
  | .nil, _ => trivial
  | .cons name need item get set isOmitted rest, mean => by
    refine ⟨fun absent => ?_, mean.2.asAtStart⟩
    have here := mean.1
    have notFound : entries.get? name = none := Entries.get?_eq_none fun entry member same =>
      absent (same ▸ List.mem_map_of_mem member)
    rw [notFound] at here
    exact here.2

/-- A record is what the start becomes when the fields that have entries are copied from it. -/
theorem foldl_copied (lawful : fields.Lawful) {entries : Entries Value} {start meant : α}
    (mean : fields.Mean entries start meant) :
    (entries.map Prod.fst).foldl (fun record key => fields.copied key meant record) start =
      meant :=
  foldl_copied_of_asAtStart lawful mean.asAtStart

/-- No field is missing where every one that has to be given has an entry. -/
theorem missing?_eq_none {entries : Entries Value} {start meant : α} {read : List String}
    (all : ∀ key ∈ entries.map Prod.fst, key ∈ read) :
    ∀ {fields : Fields α}, fields.Mean entries start meant → fields.missing? read = none
  | .nil, _ => rfl
  | .cons name need item get set isOmitted rest, mean => by
    have given : ¬(need = .always ∧ (!read.contains name) = true) := by
      rintro ⟨always, unread⟩
      have here := mean.1
      cases found : entries.get? name with
      | none =>
        rw [found] at here
        exact here.1 always
      | some value =>
        have member := all name (List.mem_map_of_mem (Entries.mem_of_get? found))
        simp [member] at unread
    rw [missing?, if_neg given]
    exact missing?_eq_none all mean.2

end Fields

/-- A field of the schema of a record is one of its fields. -/
theorem Schema.HasField.fields {α β : Type} {name : String} {item : Schema β} {view : α → β}
    {title : String} {start : α} {fields : Fields α}
    (has : Schema.HasField name item view (.record title start fields)) :
    fields.HasField name item view := by
  cases has with
  | record has => exact has

/-! ## Regular schemas -/

/-- Whether a schema is one of a value or nothing. -/
def Schema.isOptional {α : Type} : Schema α → Bool
  | .optional _ => true
  | _ => false

mutual

/-- How deep values of a schema stand in one another. -/
def Schema.height {α : Type} : Schema α → Nat
  | .optional item => item.height
  | .list item => item.height + 1
  | .variant _ _ _ => 1
  | .record _ _ fields => fields.height + 1
  | .text _ | .path | .bool | .natural _ _ => 0

/-- How deep values of fields stand in one another. -/
def Fields.height {α : Type} : Fields α → Nat
  | .nil => 0
  | .cons _ _ item _ _ _ rest => max item.height rest.height

end

mutual

/-- A schema that can be read back: numbers are within 64 bits, nothing is told from something,
names are known, and records are nothing but their fields, of which those that are left out are not
required and as at the start. -/
def Schema.Regular {α : Type} : Schema α → Prop
  | .natural limit _ => limit ≤ JsonText.Read.maxUnsigned
  | .optional item => item.isOptional = false ∧ item.Regular
  | .list item => item.Regular
  | .variant _ known name => ∀ value, known.lookup (name value) = some value
  | .record _ start fields => fields.Lawful ∧ fields.names.Nodup ∧ fields.Regular start
  | .text _ | .path | .bool => True

/-- Fields of which those that are left out are not required and as at the start. -/
def Fields.Regular {α : Type} : Fields α → (start : α) → Prop
  | .nil, _ => True
  | .cons _ need item get _ isOmitted rest, start =>
    item.Regular ∧ (∀ part, isOmitted part = true → need ≠ .always ∧ part = get start) ∧
      rest.Regular start

end

end BundleFinish
