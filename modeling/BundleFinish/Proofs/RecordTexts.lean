import BundleFinish.Proofs.SchemaReading
import BundleFinish.Proofs.SkippedValues

/-! # Records in texts

An object is read as a record if the text for each field says what the record has there, or, where
there is none and none is required, the record has what is there at the start
(`Schema.takes_record_of_hear`). The fields stand in any order, and entries with other keys may stand between
them, with any values and any number of times. -/

namespace BundleFinish

open JsonText JsonText.Read

/-- What stands under a name. -/
def Entries.named {α : Type} (entries : Entries α) (name : String) : List α :=
  (entries.filter fun entry => entry.1 = name).map Prod.snd

namespace Entries

variable {α : Type} {name : String} {entry : String × α} {entries : Entries α}

/-- An entry stands under its key, in front of what else does. -/
theorem named_cons_self : named (entry :: entries) entry.1 = entry.2 :: entries.named entry.1 := by
  simp [named]

/-- Fewer entries have no more under a name. -/
theorem named_sublist_cons (entry : String × α) (entries : Entries α) (name : String) :
    (entries.named name).Sublist (named (entry :: entries) name) :=
  ((List.sublist_cons_self entry entries).filter _).map _

/-- Nothing stands under a name that is no key. -/
theorem named_eq_nil_iff : entries.named name = [] ↔ name ∉ entries.map Prod.fst := by
  rw [named, List.map_eq_nil_iff, List.filter_eq_nil_iff, List.mem_map]
  simp only [decide_eq_true_eq]
  exact ⟨fun none ⟨entry, member, same⟩ => none entry member same,
    fun none entry member same => none ⟨entry, member, same⟩⟩

/-- What stands under the key of an entry is there. -/
theorem mem_named_of_mem (member : entry ∈ entries) : entry.2 ∈ entries.named entry.1 :=
  List.mem_map_of_mem (List.mem_filter.mpr ⟨member, by simp⟩)

end Entries

namespace Fields

variable {α : Type}

/-- The texts of entries say what a record has in its fields. A field comes once, or, if it need not
be given, not at all; then it is as at the start. -/
def Hear : Fields α → (depth : Nat) → Entries (List Char) → (start meant : α) → Prop
  | .nil, _, _, _, _ => True
  | .cons name need item get _ _ rest, depth, entries, start, meant =>
    ((entries.named name = [] ∧ need ≠ .always ∧ get meant = get start) ∨
      ∃ spelled, entries.named name = [spelled] ∧ Takes (item.read depth) spelled (get meant)) ∧
    rest.Hear depth entries start meant

variable {depth : Nat} {entries : Entries (List Char)} {start meant : α}

/-- Nothing is copied for a key that is no field. -/
theorem copied_of_not_mem {key : String} (source record : α) :
    ∀ {fields : Fields α}, key ∉ fields.names → fields.copied key source record = record
  | .nil, _ => rfl
  | .cons name _ _ _ _ _ rest, unknown => by
    rw [names, List.mem_cons, not_or] at unknown
    rw [copied, if_neg unknown.1]
    exact copied_of_not_mem source record unknown.2

/-- There is no reader for a key that is no field. -/
theorem readNamed?_of_not_mem {key : String} (record : α) :
    ∀ {fields : Fields α}, key ∉ fields.names → fields.readNamed? depth key record = none
  | .nil, _ => by rw [readNamed?]
  | .cons name _ _ _ _ _ rest, unknown => by
    rw [names, List.mem_cons, not_or] at unknown
    rw [readNamed?, if_neg unknown.1]
    exact readNamed?_of_not_mem record unknown.2

/-- A field with an entry has a reader, which takes the text of the entry for the field. -/
theorem Hear.exists_readNamed? {entry : String × List Char} (member : entry ∈ entries) (record : α) :
    ∀ {fields : Fields α}, fields.Hear depth entries start meant → entry.1 ∈ fields.names →
      ∃ read, fields.readNamed? depth entry.1 record = some read ∧
        Takes read entry.2 (fields.copied entry.1 meant record)
  | .nil, _, known => absurd known List.not_mem_nil
  | .cons name need item get set isOmitted rest, hear, known => by
    have among := Entries.mem_named_of_mem member
    rw [readNamed?, copied]
    by_cases here : entry.1 = name
    · rw [here] at among
      refine ⟨_, if_pos here, ?_⟩
      rw [if_pos here]
      rcases hear.1 with ⟨none, -⟩ | ⟨spelled, once, takes⟩
      · rw [none] at among
        cases among
      · rw [once, List.mem_singleton] at among
        intro gap rest isGap follows
        exact .bind (among ▸ takes gap rest isGap follows) (.pure _ rest)
    · rw [if_neg here, if_neg here]
      exact hear.2.exists_readNamed? member record ((List.mem_cons.mp known).resolve_left here)

/-- A field comes once at most. -/
theorem Hear.length_named_le {key : String} :
    ∀ {fields : Fields α}, fields.Hear depth entries start meant → key ∈ fields.names →
      (entries.named key).length ≤ 1
  | .nil, _, known => absurd known List.not_mem_nil
  | .cons name need item get set isOmitted rest, hear, known => by
    by_cases here : key = name
    · rw [here]
      rcases hear.1 with ⟨none, -⟩ | ⟨spelled, once, -⟩
      · rw [none]
        exact Nat.zero_le _
      · rw [once]
        exact Nat.le_refl _
    · exact hear.2.length_named_le ((List.mem_cons.mp known).resolve_left here)

/-- The fields without entries are as at the start. -/
theorem Hear.asAtStart : ∀ {fields : Fields α}, fields.Hear depth entries start meant →
    fields.AsAtStart (· ∈ entries.map Prod.fst) start meant
  | .nil, _ => trivial
  | .cons name need item get set isOmitted rest, hear => by
    refine ⟨fun absent => ?_, hear.2.asAtStart⟩
    rcases hear.1 with ⟨-, -, same⟩ | ⟨spelled, once, -⟩
    · exact same
    · rw [Entries.named_eq_nil_iff.mpr absent] at once
      cases once

/-- No field is missing if those that have entries were read. -/
theorem Hear.missing?_eq_none {read : List String} :
    ∀ {fields : Fields α}, fields.Hear depth entries start meant →
      (∀ key ∈ entries.map Prod.fst, key ∈ fields.names → key ∈ read) →
      fields.missing? read = none
  | .nil, _, _ => rfl
  | .cons name need item get set isOmitted rest, hear, all => by
    have given : ¬(need = .always ∧ (!read.contains name) = true) := by
      rintro ⟨always, unread⟩
      rcases hear.1 with ⟨-, optional, -⟩ | ⟨spelled, once, -⟩
      · exact optional always
      · have isKey : name ∈ entries.map Prod.fst := by
          by_contra absent
          rw [Entries.named_eq_nil_iff.mpr absent] at once
          cases once
        have member := all name isKey List.mem_cons_self
        simp [member] at unread
    rw [missing?, if_neg given]
    exact hear.2.missing?_eq_none fun key isKey known => all key isKey (List.mem_cons_of_mem _ known)

end Fields

/-! ## Entries that are read, or read past -/

namespace JsonText.Read

variable {α : Type} {fields : FieldReader α}

/-- An entry whose key is no field is read past. -/
theorem isEntry_recordEntry_of_unknown {entry : String × List Char} {part : List Char}
    (spells : SpellsEntry entry part) (isJson : IsJson entry.2) (seen : List String) {record : α}
    (unknown : fields.named? entry.1 record = none) :
    IsEntry (recordEntry fields) part (seen, record) (seen, record) := by
  obtain ⟨name, front, back, spellsKey, isFront, isBack, rfl⟩ := spells
  refine ⟨entry.1, name, _, rfl, spellsKey, fun rest follows => ?_⟩
  rw [recordEntry, unknown]
  dsimp only
  rw [List.append_assoc, List.cons_append, List.append_assoc]
  exact .bind (yields_colon isFront _) (.bind (yields_skip isBack isJson follows) (.pure _ rest))

/-- The entries of an object are read as fields, or read past, one after the other: no field is read
twice, and in the end all those that are there have been read. -/
theorem exists_areEntries (fields : FieldReader α) (known : String → Prop) (step : String → α → α)
    {entries : Entries (List Char)} {parts : List (List Char)}
    (spells : List.Forall₂ SpellsEntry entries parts) (seen : List String) (record : α)
    (once : ∀ key, known key → (entries.named key).length ≤ 1)
    (new : ∀ key ∈ seen, entries.named key = [])
    (fieldsOf : ∀ entry ∈ entries, known entry.1 → ∀ record, ∃ read,
      fields.named? entry.1 record = some read ∧ Takes read entry.2 (step entry.1 record))
    (others : ∀ entry ∈ entries, ¬known entry.1 → IsJson entry.2 ∧ ∀ record,
      fields.named? entry.1 record = none ∧ step entry.1 record = record) :
    ∃ read, (∀ key ∈ seen, key ∈ read) ∧
      (∀ key ∈ entries.map Prod.fst, known key → key ∈ read) ∧
      AreEntries (recordEntry fields) parts (seen, record)
        (read, (entries.map Prod.fst).foldl (fun record key => step key record) record) := by
  induction spells generalizing seen record with
  | nil => exact ⟨seen, fun _ member => member, nofun, .nil⟩
  | @cons entry part entries parts spellsEntry _ ih =>
    have onceBehind : ∀ key, known key → (Entries.named entries key).length ≤ 1 :=
      fun key isKnown => (Entries.named_sublist_cons entry entries key).length_le.trans
        (once key isKnown)
    have newBehind : ∀ key ∈ seen, Entries.named entries key = [] := fun key member =>
      List.sublist_nil.mp (new key member ▸ Entries.named_sublist_cons entry entries key)
    have fieldsBehind := fun other member => fieldsOf other (List.mem_cons_of_mem entry member)
    have othersBehind := fun other member => others other (List.mem_cons_of_mem entry member)
    by_cases isKnown : known entry.1
    · obtain ⟨read, named, takes⟩ := fieldsOf entry List.mem_cons_self isKnown record
      have unread : entry.1 ∉ seen := fun member => by
        have none := new _ member
        rw [Entries.named_cons_self] at none
        cases none
      have single : Entries.named entries entry.1 = [] := by
        have bound := once _ isKnown
        rw [Entries.named_cons_self, List.length_cons] at bound
        exact List.eq_nil_of_length_eq_zero (by omega)
      obtain ⟨name, front, back, spellsKey, isFront, isBack, rfl⟩ := spellsEntry
      have first := isEntry_recordEntry named unread spellsKey isFront isBack takes
      obtain ⟨all, before, behind, areEntries⟩ := ih (entry.1 :: seen) (step entry.1 record)
        onceBehind (List.forall_mem_cons.mpr ⟨single, newBehind⟩) fieldsBehind othersBehind
      refine ⟨all, fun key member => before key (List.mem_cons_of_mem _ member), ?_,
        .cons first areEntries⟩
      rw [List.map_cons]
      exact List.forall_mem_cons.mpr ⟨fun _ => before _ List.mem_cons_self, behind⟩
    · obtain ⟨isJson, unknown⟩ := others entry List.mem_cons_self isKnown
      obtain ⟨noReader, same⟩ := unknown record
      have first := isEntry_recordEntry_of_unknown spellsEntry isJson seen noReader
      obtain ⟨all, before, behind, areEntries⟩ := ih seen record onceBehind newBehind fieldsBehind
        othersBehind
      refine ⟨all, before, ?_, ?_⟩
      · rw [List.map_cons]
        exact List.forall_mem_cons.mpr ⟨fun known => absurd known isKnown, behind⟩
      · rw [List.map_cons, List.foldl_cons, same]
        exact .cons first areEntries

end JsonText.Read

/-- **An object is read as the record that its texts say**, whatever else it holds. -/
theorem Schema.takes_record_of_hear {α : Type} {title : String} {start meant : α} {fields : Fields α}
    (lawful : fields.Lawful) {depth : Nat} (deep : depth ≠ 0) {entries : Entries (List Char)}
    {spelled : List Char} (spells : SpellsObject entries spelled)
    (hear : fields.Hear (depth - 1) entries start meant)
    (others : ∀ entry ∈ entries, entry.1 ∉ fields.names → IsJson entry.2) :
    Takes ((Schema.record title start fields).read depth) spelled meant := by
  obtain ⟨parts, inner, spellsEach, listed, rfl⟩ := spells
  obtain ⟨read, -, all, areEntries⟩ := exists_areEntries (fields.reader title depth)
    (· ∈ fields.names) (fun key record => fields.copied key meant record) spellsEach [] start
    (fun key known => hear.length_named_le known) nofun
    (fun entry member known record => hear.exists_readNamed? member record known)
    (fun entry member unknown => ⟨others entry member unknown, fun record =>
      ⟨Fields.readNamed?_of_not_mem record unknown, Fields.copied_of_not_mem meant record unknown⟩⟩)
  rw [Fields.foldl_copied_of_asAtStart lawful hear.asAtStart] at areEntries
  rw [Schema.read_record]
  exact takes_record listed areEntries (hear.missing?_eq_none all) deep

end BundleFinish
