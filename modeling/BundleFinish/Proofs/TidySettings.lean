import BundleFinish.Configuration.Layers
import BundleFinish.Proofs.Outcome
import Mathlib.Data.String.Basic

/-! # Tidy settings

The entries of a map are put in by key, one for each key, so they stand in the order of their keys
(`Entries.Sorted.ofList`). Settings are tidy when all their groups are. What a settings file holds
is tidy (`JsonText.Read.gives_mapping`), and so is what a variable stands for, which never holds the
value that is nothing (`Settings.tidy_valueOfText`). -/

namespace BundleFinish

/-! ## Sorted entries -/

namespace Entries

variable {α : Type} {key : String} {value : α} {entries : Entries α}

/-- The keys are in order, no two of them alike. -/
def Sorted (entries : Entries α) : Prop := entries.Pairwise fun entry later => entry.1 < later.1

/-- What is there after an entry is put in. -/
theorem eq_or_mem_of_mem_insert {entry : String × α} (member : entry ∈ entries.insert key value) :
    entry = (key, value) ∨ entry ∈ entries := by
  fun_induction insert key value entries with
  | case1 => exact .inl (List.mem_singleton.mp member)
  | case2 found rest =>
    rcases List.mem_cons.mp member with here | later
    · exact .inl here
    · exact .inr (List.mem_cons_of_mem _ later)
  | case3 other found rest differ before => exact List.mem_cons.mp member
  | case4 other found rest differ behind ih =>
    rcases List.mem_cons.mp member with here | later
    · exact .inr (here ▸ List.mem_cons_self)
    · exact (ih later).imp_right (List.mem_cons_of_mem _)

/-- An entry is put in where it keeps the order. -/
theorem Sorted.insert (sorted : Sorted entries) (key : String) (value : α) :
    Sorted (entries.insert key value) := by
  fun_induction Entries.insert key value entries with
  | case1 => exact List.pairwise_singleton _ _
  | case2 found rest => exact List.pairwise_cons.mpr (List.pairwise_cons.mp sorted)
  | case3 other found rest differ before =>
    refine List.pairwise_cons.mpr ⟨fun entry member => ?_, sorted⟩
    rcases List.mem_cons.mp member with rfl | later
    · exact before
    · exact lt_trans before ((List.pairwise_cons.mp sorted).1 entry later)
  | case4 other found rest differ behind ih =>
    obtain ⟨least, sortedRest⟩ := List.pairwise_cons.mp sorted
    refine List.pairwise_cons.mpr ⟨fun entry member => ?_, ih sortedRest⟩
    rcases eq_or_mem_of_mem_insert member with rfl | old
    · exact lt_of_le_of_ne (not_lt.mp behind) (Ne.symm differ)
    · exact least entry old

/-- An entry with the greatest key comes last. -/
theorem insert_eq_append (greatest : ∀ entry ∈ entries, entry.1 < key) (value : α) :
    entries.insert key value = entries ++ [(key, value)] := by
  induction entries with
  | nil => rfl
  | cons first rest ih =>
    obtain ⟨other, found⟩ := first
    have before : other < key := greatest _ List.mem_cons_self
    rw [insert, if_neg before.ne', if_neg before.not_gt,
      ih fun entry member => greatest entry (List.mem_cons_of_mem _ member), List.cons_append]

/-- A key that was found is there with its value. -/
theorem mem_of_get? (found : entries.get? key = some value) : (key, value) ∈ entries := by
  fun_induction get? key entries with
  | case1 => cases found
  | case2 here rest =>
    obtain rfl : here = value := Option.some.inj found
    exact List.mem_cons_self
  | case3 other here rest differ ih => exact List.mem_cons_of_mem _ (ih found)

/-- A key that is in no entry is not found. -/
theorem get?_eq_none (absent : ∀ entry ∈ entries, entry.1 ≠ key) : entries.get? key = none := by
  induction entries with
  | nil => rfl
  | cons first rest ih =>
    rw [get?, if_neg (absent first List.mem_cons_self).symm]
    exact ih fun entry member => absent entry (List.mem_cons_of_mem _ member)

/-- A key is among the keys where it is found. -/
theorem contains_map_fst (key : String) (entries : Entries α) :
    (entries.map Prod.fst).contains key = (entries.get? key).isSome := by
  induction entries with
  | nil => rfl
  | cons first rest ih =>
    rw [List.map_cons, List.contains_cons, ih, get?]
    by_cases same : key = first.1
    · rw [if_pos same, beq_iff_eq.mpr same, Bool.true_or, Option.isSome_some]
    · rw [if_neg same, beq_eq_false_iff_ne.mpr same, Bool.false_or]

/-- The key of the first entry of sorted entries is not found in the others. -/
theorem Sorted.get?_tail_eq_none {rest : Entries α} (sorted : Sorted ((key, value) :: rest)) :
    get? key rest = none :=
  get?_eq_none fun entry member => ((List.pairwise_cons.mp sorted).1 entry member).ne'

/-- Every one of sorted entries is found by its key. -/
theorem Sorted.get?_of_mem (sorted : Sorted entries) {entry : String × α}
    (member : entry ∈ entries) : entries.get? entry.1 = some entry.2 := by
  induction entries with
  | nil => cases member
  | cons first rest ih =>
    obtain ⟨least, sortedRest⟩ := List.pairwise_cons.mp sorted
    rcases List.mem_cons.mp member with rfl | later
    · rw [get?, if_pos rfl]
    · rw [get?, if_neg (least entry later).ne']
      exact ih sortedRest later

/-- What is in a list of entries put together is in the list. -/
theorem mem_of_mem_ofList {list : List (String × α)} {entry : String × α}
    (member : entry ∈ ofList list) : entry ∈ list := by
  -- Whatever was put in so far is in the list.
  refine List.foldlRecOn list _ (motive := fun sorted => entry ∈ sorted → entry ∈ list)
    (fun member => absurd member List.not_mem_nil) ?_ member
  intro sorted old here listed inserted
  rcases eq_or_mem_of_mem_insert inserted with rfl | before
  · exact listed
  · exact old before

/-- Entries put together are sorted. -/
theorem Sorted.ofList (list : List (String × α)) : Sorted (Entries.ofList list) :=
  List.foldlRecOn list _ (motive := Sorted) List.Pairwise.nil
    fun _ sorted entry _ => sorted.insert entry.1 entry.2

end Entries

/-! ## Tidy settings and values -/

namespace Settings.Setting

/-- A setting is a group. -/
def IsGroup (setting : Setting) : Prop := ∃ origin entries, setting = .group origin entries

instance (setting : Setting) : Decidable setting.IsGroup :=
  match setting with
  | .leaf .. => isFalse fun group => nomatch group
  | .group origin entries => isTrue ⟨origin, entries, rfl⟩

/-- A setting is a value. -/
def IsLeaf (setting : Setting) : Prop := ∃ origin value, setting = .leaf origin value

/-- All groups are sorted, and all values that are no groups have a property. -/
inductive Tidy (leaves : Value → Prop) : Setting → Prop
  | leaf {origin : Origin} {value : Value} (holds : leaves value) : Tidy leaves (.leaf origin value)
  | group {origin : Origin} {entries : Entries Setting} (sorted : entries.Sorted)
      (tidy : ∀ entry ∈ entries, Tidy leaves entry.2) : Tidy leaves (.group origin entries)

variable {leaves : Value → Prop} {origin : Origin}

/-- The entries of tidy settings are sorted. -/
theorem Tidy.sorted_entries {setting : Setting} (tidy : setting.Tidy leaves) :
    setting.entries.Sorted := by
  cases tidy with
  | leaf holds => exact List.Pairwise.nil
  | group sorted tidy => exact sorted

/-- The entries of tidy settings are tidy. -/
theorem Tidy.of_mem_entries {setting : Setting} (tidy : setting.Tidy leaves)
    {entry : String × Setting} (member : entry ∈ setting.entries) : entry.2.Tidy leaves := by
  cases tidy with
  | leaf holds => cases member
  | group sorted tidy => exact tidy entry member

/-- The settings of entries, one by one. -/
theorem ofEntries_eq_map (origin : Origin) (entries : List (String × Value)) :
    ofEntries origin entries = entries.map fun entry => (entry.1, ofValue origin entry.2) := by
  induction entries with
  | nil => rfl
  | cons first rest ih => rw [ofEntries, ih, List.map_cons]

end Settings.Setting

namespace Value

open Settings (Origin Setting)

variable {leaves : Value → Prop}

/-- A value stands for tidy settings, in whatever layer. -/
def Tidy (leaves : Value → Prop) (value : Value) : Prop :=
  ∀ origin : Origin, (Setting.ofValue origin value).Tidy leaves

/-- A value that is no map stands for itself. -/
theorem tidy_of_ne_map {value : Value} (plain : ∀ entries, value ≠ .map entries)
    (holds : leaves value) : value.Tidy leaves := by
  intro origin
  cases value with
  | map entries => exact absurd rfl (plain entries)
  | _ => exact .leaf holds

/-- A map of tidy values is tidy. -/
theorem tidy_mapOf {entries : List (String × Value)}
    (tidy : ∀ entry ∈ entries, entry.2.Tidy leaves) : (mapOf entries).Tidy leaves := by
  intro origin
  rw [mapOf, Setting.ofValue, Setting.ofEntries_eq_map]
  refine .group (List.pairwise_map.mpr (Entries.Sorted.ofList entries)) fun entry member => ?_
  obtain ⟨original, inside, rfl⟩ := List.mem_map.mp member
  exact tidy original (Entries.mem_of_mem_ofList inside) origin

end Value

mutual

/-- What a schema writes is tidy. -/
theorem Schema.tidy_toValue {α : Type} :
    ∀ (schema : Schema α) (value : α), (schema.toValue value).Tidy fun _ => True
  | .text _, _ | .path, _ | .bool, _ | .natural _ _, _ | .variant _ _ _, _ | .list _, _
  | .optional _, none => by
    rw [Schema.toValue]
    exact Value.tidy_of_ne_map nofun trivial
  | .optional item, some value => by
    rw [Schema.toValue]
    exact item.tidy_toValue value
  | .record _ _ fields, value => by
    rw [Schema.toValue]
    exact Value.tidy_mapOf (fields.tidy_toEntries value)

/-- What a schema writes for the fields of a record is tidy. -/
theorem Fields.tidy_toEntries {α : Type} :
    ∀ (fields : Fields α) (value : α), ∀ entry ∈ fields.toEntries value,
      entry.2.Tidy fun _ => True
  | .nil, _ => by
    rw [Fields.toEntries]
    exact nofun
  | .cons name _ item get _ isOmitted rest, value => by
    rw [Fields.toEntries]
    split
    · exact rest.tidy_toEntries value
    · exact List.forall_mem_cons.mpr ⟨item.tidy_toValue (get value), rest.tidy_toEntries value⟩

end

/-! ## Reading a settings file -/

namespace JsonText.Read

variable {α β : Type}

/-- A reader that goes on from what another one gave starts behind it. -/
theorem exists_of_bind_eq_ok {read : Read β} {next : β → Read α} {cursor rest : Cursor} {value : α}
    (run : (read >>= next) cursor = .ok (value, rest)) :
    ∃ first middle, read cursor = .ok (first, middle) ∧ next first middle = .ok (value, rest) := by
  obtain ⟨⟨first, middle⟩, front, onwards⟩ := BundleFinish.exists_of_bind_eq_ok
    (show read cursor >>= (fun found => next found.1 found.2) = .ok (value, rest) from run)
  exact ⟨first, middle, front, onwards⟩

/-- A reader goes on from what another one gave. -/
theorem bind_eq_of_ok {read : Read β} {next : β → Read α} {cursor middle : Cursor} {first : β}
    (front : read cursor = .ok (first, middle)) : (read >>= next) cursor = next first middle := by
  show read cursor >>= (fun found => next found.1 found.2) = _
  rw [front]
  rfl

/-- Whatever a reader gives has a property. -/
def Gives (property : α → Prop) (read : Read α) : Prop :=
  ∀ (cursor rest : Cursor) (value : α), read cursor = .ok (value, rest) → property value

namespace Gives

variable {property : α → Prop}

theorem pure {value : α} (holds : property value) : Gives property (pure value) := by
  intro cursor rest result given
  obtain rfl : value = result := congrArg Prod.fst (Except.ok.inj given)
  exact holds

/-- What a reader gives that goes on from what another one gave. -/
theorem bind (given : β → Prop) {read : Read β} {next : β → Read α} (first : Gives given read)
    (second : ∀ value, given value → Gives property (next value)) :
    Gives property (read >>= next) := by
  intro cursor rest result run
  obtain ⟨value, middle, front, onwards⟩ := exists_of_bind_eq_ok run
  exact second value (first _ _ _ front) _ _ _ onwards

/-- What a reader gives that goes on from something unknown. -/
theorem of_bind {read : Read β} {next : β → Read α}
    (second : ∀ value, Gives property (next value)) : Gives property (read >>= next) :=
  bind (fun _ => True) (fun _ _ _ _ => trivial) fun value _ => second value

/-- A reader that fails gives nothing. -/
theorem fail (cause : Cause) : Gives property (fail cause) := by
  intro cursor rest result given
  cases given

/-- A reader that fails gives nothing. -/
theorem failAhead (cause : Cause) : Gives property (failAhead cause) := by
  intro cursor rest result given
  cases given

end Gives

/-- What is kept by every entry is kept by all of them. -/
theorem gives_entries {σ : Type} {property : σ → Prop} {entry : σ → String → Read σ}
    (kept : ∀ state key, property state → Gives property (entry state key)) (bound : Nat)
    (first : Bool) (state : σ) (holds : property state) :
    Gives property (entries entry bound first state) := by
  induction bound generalizing first state with
  | zero => exact .pure holds
  | succ bound ih =>
    refine .of_bind fun follows => ?_
    cases follows with
    | false => exact .pure holds
    | true =>
      exact .of_bind fun key => .bind property (kept state key holds) fun next => ih false next

/-- What is kept by every entry holds of a whole object. -/
theorem gives_object {σ : Type} {property : σ → Prop} {entry : σ → String → Read σ}
    (kept : ∀ state key, property state → Gives property (entry state key)) (depth : Nat)
    (start : σ) (holds : property start) : Gives property (object depth start entry) := by
  unfold object
  split
  · exact .failAhead _
  · refine .of_bind fun _ => .of_bind fun _ => ?_
    exact .bind property (gives_entries kept _ true start holds)
      fun state holds => .of_bind fun _ => .pure holds

/-- A value that holds no others is no map. -/
theorem gives_plain (c : Char) : Gives (Value.Tidy fun _ => True) (value.plain c) := by
  have plain : ∀ value : Value, (∀ entries, value ≠ .map entries) →
      Gives (Value.Tidy fun _ => True) (pure value) :=
    fun value differs => .pure (Value.tidy_of_ne_map differs trivial)
  unfold value.plain
  split
  · exact .of_bind fun _ => .of_bind fun _ => plain _ nofun
  · exact .of_bind fun _ => .of_bind fun _ => plain _ nofun
  · exact .of_bind fun _ => .of_bind fun _ => plain _ nofun
  · exact .of_bind fun _ => plain _ nofun
  · split
    · refine .of_bind fun number => ?_
      cases number <;> exact plain _ nofun
    · exact .failAhead _

/-- Every value in a settings file is tidy. -/
theorem gives_value (depth : Nat) : Gives (Value.Tidy fun _ => True) (value depth) := by
  induction depth with
  | zero =>
    refine .of_bind fun c => ?_
    split
    · exact .failAhead _
    · exact .failAhead _
    · exact gives_plain c
  | succ depth ih =>
    refine .of_bind fun c => ?_
    split
    · exact .of_bind fun items => .pure (Value.tidy_of_ne_map nofun trivial)
    · -- Entries are collected backwards, each in front of those before it.
      refine .bind (fun entries => ∀ entry ∈ entries, entry.2.Tidy fun _ => True)
        (gives_object (fun entries key tidy => ?_) _ [] nofun)
        fun entries tidy => .pure (Value.tidy_mapOf fun entry member =>
          tidy entry (List.mem_reverse.mp member))
      exact .of_bind fun _ => .bind _ ih fun found tidyFound => .pure fun entry member => by
        rcases List.mem_cons.mp member with rfl | old
        · exact tidyFound
        · exact tidy entry old
    · exact gives_plain c

/-- A value that was not asked for is not given. -/
theorem gives_mismatch (property : α → Prop) (expected : String) :
    Gives property (mismatch expected) := by
  refine .of_bind fun found => ?_
  split
  · exact .of_bind fun _ => .of_bind fun _ => .fail _
  · exact .of_bind fun _ => .of_bind fun _ => .fail _
  · exact .of_bind fun _ => .of_bind fun _ => .fail _
  · exact .of_bind fun _ => .fail _
  · exact .fail _
  · exact .fail _
  · split
    · exact .of_bind fun _ => .fail _
    · exact .failAhead _
  · exact .failAhead _

/-- Behind white space there is no more of it. -/
theorem spacesFrom_idem (line column : Nat) (text : List Char) :
    spacesFrom (spacesFrom line column text).line (spacesFrom line column text).column
      (spacesFrom line column text).rest = spacesFrom line column text := by
  fun_induction spacesFrom line column text with
  | case1 => rfl
  | case2 line column rest ih => exact ih
  | case3 line column c rest differ space ih => exact ih
  | case4 line column c rest differ solid => rw [spacesFrom, if_neg differ, if_neg solid]

/-- One comes to the first character behind white space, if there is one. -/
theorem toValue_of_head? {cursor : Cursor} {c : Char}
    (first : (spacesFrom cursor.line cursor.column cursor.rest).rest.head? = some c) :
    toValue cursor = .ok (c, spacesFrom cursor.line cursor.column cursor.rest) := by
  have atNext : next cursor = .ok ((spacesFrom cursor.line cursor.column cursor.rest).rest.head?,
      spacesFrom cursor.line cursor.column cursor.rest) := rfl
  rw [toValue, bind_eq_of_ok atNext, first]
  rfl

/-- In front of a value, one goes no further to get to it. -/
theorem toValue_idem {cursor middle : Cursor} {c : Char}
    (found : toValue cursor = .ok (c, middle)) : toValue middle = .ok (c, middle) := by
  obtain ⟨first?, reached, atNext, given⟩ := exists_of_bind_eq_ok found
  obtain ⟨rfl, rfl⟩ : (spacesFrom cursor.line cursor.column cursor.rest).rest.head? = first? ∧
      spacesFrom cursor.line cursor.column cursor.rest = reached :=
    Prod.mk.inj (Except.ok.inj atNext)
  rcases first : (spacesFrom cursor.line cursor.column cursor.rest).rest.head? with _ | c'
  · rw [first] at given
    cases given
  · rw [first] at given
    obtain ⟨rfl, rfl⟩ : c' = c ∧ spacesFrom cursor.line cursor.column cursor.rest = middle :=
      Prod.mk.inj (Except.ok.inj given)
    have behind := spacesFrom_idem cursor.line cursor.column cursor.rest
    have again := toValue_of_head? (behind.symm ▸ first)
    rwa [behind] at again

/-- A settings file holds a map, and a tidy one. -/
theorem gives_mapping :
    Gives (fun value => value.Tidy (fun _ => True) ∧ ∃ entries, value = .map entries) mapping := by
  intro cursor rest result run
  obtain ⟨c, middle, front, onwards⟩ := exists_of_bind_eq_ok run
  by_cases brace : c = '\x7b'
  · rw [if_pos brace] at onwards
    refine ⟨gives_value _ _ _ _ onwards, ?_⟩
    -- The value is read from in front of the brace again, so it comes to the same character.
    obtain ⟨c', middle', front', onwards⟩ :=
      exists_of_bind_eq_ok (show value (126 + 1) middle = .ok (result, rest) from onwards)
    obtain ⟨rfl, rfl⟩ := Prod.mk.inj (Except.ok.inj ((toValue_idem front).symm.trans front'))
    subst brace
    obtain ⟨entries, _, _, given⟩ := exists_of_bind_eq_ok onwards
    exact ⟨_, (Prod.mk.inj (Except.ok.inj given)).1.symm⟩
  · rw [if_neg brace] at onwards
    exact (gives_mismatch (fun _ => False) _ _ _ _ onwards).elim

/-- What a reader gives is what is read from a whole text. -/
theorem Gives.of_run {property : α → Prop} {read : Read α} (gives : Gives property read)
    {text : String} {value : α} (done : run read text = .ok value) : property value := by
  unfold run at done
  split at done
  case h_1 value' rest whole =>
    obtain rfl : value' = value := Except.ok.inj done
    obtain ⟨first, middle, front, onwards⟩ := exists_of_bind_eq_ok whole
    obtain ⟨_, _, _, given⟩ := exists_of_bind_eq_ok onwards
    obtain rfl : first = value' := (Prod.mk.inj (Except.ok.inj given)).1
    exact gives _ _ _ front
  case h_2 => cases done

end JsonText.Read

/-- The layer of a settings file is a tidy group. -/
theorem Configuration.tidy_fileLayer {workspace : Workspace} {path : Path}
    {layer : Settings.Setting} (read : fileLayer workspace path = .ok (some layer)) :
    layer.Tidy (fun _ => True) ∧ layer.IsGroup := by
  unfold fileLayer at read
  split at read
  · cases read
  · dsimp only at read
    split at read
    · cases read
    · split at read
      · cases read
      · rename_i value parsed
        obtain rfl := Option.some.inj (Except.ok.inj read)
        obtain ⟨tidy, entries, rfl⟩ := JsonText.Read.gives_mapping.of_run parsed
        exact ⟨tidy _, _, _, rfl⟩

/-! ## Reading variables -/

namespace Settings

/-- A number that is rounded is neither nothing nor a map. -/
theorem tidy_nearest (negative : Bool) (digits : Nat) (power : Int) :
    (nearest negative digits power).Tidy (· ≠ .unit) := by
  unfold nearest
  dsimp only
  repeat' split
  all_goals exact Value.tidy_of_ne_map nofun nofun

/-- A number with a decimal point is neither nothing nor a map. -/
theorem tidy_of_fraction? {text : List Char} {value : Value} (read : fraction? text = some value) :
    value.Tidy (· ≠ .unit) := by
  unfold fraction? at read
  dsimp only at read
  split at read
  · obtain ⟨digits, _, onwards⟩ := Option.bind_eq_some_iff.mp read
    obtain ⟨power, _, given⟩ := Option.bind_eq_some_iff.mp onwards
    exact Option.some.inj given ▸ tidy_nearest _ _ _
  · cases read

/-- A whole number is neither nothing nor a map. -/
theorem tidy_of_wholeNumber? {text : List Char} {value : Value}
    (read : wholeNumber? text = some value) : value.Tidy (· ≠ .unit) := by
  unfold wholeNumber? at read
  split at read
  obtain ⟨number, _, chosen⟩ := Option.bind_eq_some_iff.mp read
  -- By the sign, and by whether the number is within the bounds for it.
  split at chosen <;> split at chosen
  case isTrue.isTrue | isFalse.isTrue =>
    obtain rfl := Option.some.inj chosen
    exact Value.tidy_of_ne_map nofun nofun
  all_goals cases chosen

/-- A plain text stands for a number or a text. -/
theorem tidy_plainValue (text : List Char) : (plainValue text).Tidy (· ≠ .unit) := by
  unfold plainValue
  dsimp only
  split
  case h_1 value fractional =>
    split at fractional
    · exact tidy_of_fraction? fractional
    · cases fractional
  case h_2 =>
    cases whole : wholeNumber? (Text.trimChars text) with
    | some value => exact tidy_of_wholeNumber? whole
    | none => exact Value.tidy_of_ne_map nofun nofun

/-- What holds of every part holds of all parts that were read. -/
theorem forall_of_parts? {α : Type} {part? : List Char → Option (α × List Char)} {closing : Char}
    {property : α → Prop}
    (each : ∀ {text rest part}, part? text = some (part, rest) → property part) {bound : Nat}
    {text rest : List Char} {parts : List α}
    (read : parts? part? closing bound text = some (parts, rest)) :
    ∀ part ∈ parts, property part := by
  -- Behind a part, the list ends, or a comma comes and the parts behind it are read.
  induction bound generalizing text rest parts with
  | zero => cases read
  | succ bound ih =>
    rw [parts?] at read
    split at read
    · obtain ⟨rfl, -⟩ := Prod.mk.inj (Option.some.inj read)
      exact nofun
    · obtain ⟨⟨first, middle⟩, front, onwards⟩ := Option.bind_eq_some_iff.mp read
      dsimp only at onwards
      split at onwards
      · obtain ⟨rfl, -⟩ := Prod.mk.inj (Option.some.inj onwards)
        exact List.forall_mem_singleton.mpr (each front)
      · split at onwards
        · obtain ⟨⟨others, behind⟩, back, whole⟩ := Option.bind_eq_some_iff.mp onwards
          obtain ⟨rfl, -⟩ := Prod.mk.inj (Option.some.inj whole)
          exact List.forall_mem_cons.mpr ⟨each front, ih back⟩
        · cases onwards

/-- What holds of every value holds of the value of an entry. -/
theorem holds_of_assignment? {value? : List Char → Option (Value × List Char)}
    {property : Value → Prop}
    (each : ∀ {text rest value}, value? text = some (value, rest) → property value)
    {text rest : List Char} {entry : String × Value}
    (read : assignment? value? text = some (entry, rest)) : property entry.2 := by
  obtain ⟨⟨name, middle⟩, _, onwards⟩ := Option.bind_eq_some_iff.mp read
  dsimp only at onwards
  split at onwards
  · obtain ⟨⟨value, behind⟩, inner, whole⟩ := Option.bind_eq_some_iff.mp onwards
    obtain ⟨rfl, -⟩ := Prod.mk.inj (Option.some.inj whole)
    exact each inner
  · cases onwards

/-- A value is tidy if the values inside it are. -/
theorem tidy_of_startedValue? {value? : List Char → Option (Value × List Char)}
    (inner : ∀ {text rest value}, value? text = some (value, rest) → value.Tidy (· ≠ .unit))
    {text rest : List Char} {value : Value}
    (read : startedValue? value? text = some (value, rest)) : value.Tidy (· ≠ .unit) := by
  unfold startedValue? at read
  split at read
  · obtain ⟨rfl, -⟩ := Prod.mk.inj (Option.some.inj read)
    exact Value.tidy_of_ne_map nofun nofun
  · obtain ⟨rfl, -⟩ := Prod.mk.inj (Option.some.inj read)
    exact Value.tidy_of_ne_map nofun nofun
  · split at read
    · obtain ⟨⟨entries, behind⟩, front, whole⟩ := Option.bind_eq_some_iff.mp read
      obtain ⟨rfl, -⟩ := Prod.mk.inj (Option.some.inj whole)
      exact Value.tidy_mapOf (forall_of_parts? (holds_of_assignment? inner) front)
    · obtain ⟨⟨items, behind⟩, _, whole⟩ := Option.bind_eq_some_iff.mp read
      obtain ⟨rfl, -⟩ := Prod.mk.inj (Option.some.inj whole)
      exact Value.tidy_of_ne_map nofun nofun
    · obtain ⟨⟨shown, behind⟩, _, whole⟩ := Option.bind_eq_some_iff.mp read
      obtain ⟨rfl, -⟩ := Prod.mk.inj (Option.some.inj whole)
      exact Value.tidy_of_ne_map nofun nofun
    · obtain ⟨rfl, -⟩ := Prod.mk.inj (Option.some.inj read)
      exact Value.tidy_of_ne_map nofun nofun
    · cases read
    · obtain ⟨rfl, -⟩ := Prod.mk.inj (Option.some.inj read)
      exact tidy_plainValue _

/-- Every value that is read is tidy and holds no nothing. -/
theorem tidy_of_value? {depth : Nat} {text rest : List Char} {value : Value}
    (read : value? depth text = some (value, rest)) : value.Tidy (· ≠ .unit) := by
  induction depth generalizing text rest value with
  | zero => cases read
  | succ depth ih =>
    obtain ⟨⟨started, behind⟩, front, whole⟩ := Option.bind_eq_some_iff.mp read
    obtain ⟨rfl, -⟩ := Prod.mk.inj (Option.some.inj whole)
    exact tidy_of_startedValue? ih front

/-- What a variable stands for is tidy and holds no nothing. -/
theorem tidy_valueOfText (text : String) : (valueOfText text).Tidy (· ≠ .unit) := by
  unfold valueOfText
  split
  case h_1 value read => exact tidy_of_value? read
  case h_2 => exact Value.tidy_of_ne_map nofun nofun

/-- There is at least one piece between dots. -/
theorem splitDots_ne_nil (text : List Char) : splitDots text ≠ [] := by
  fun_cases splitDots text <;> exact List.cons_ne_nil _ _

/-- The key of a variable has at least one name. -/
theorem ne_nil_of_keyOfName? {name : String} {key : List String}
    (named : keyOfName? name = some key) : key ≠ [] := by
  unfold keyOfName? at named
  dsimp only at named
  split at named
  · split at named
    · cases named
    · rw [← Option.some.inj named]
      exact List.map_eq_nil_iff.not.mpr (splitDots_ne_nil _)
  · cases named

end Settings

end BundleFinish
