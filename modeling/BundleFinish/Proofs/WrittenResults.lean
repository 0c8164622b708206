import BundleFinish.Build.MessageJson
import BundleFinish.Proofs.RecordTexts
import BundleFinish.Proofs.SchemaRange

/-! # Build results that were written

A build result is read back as it was written, and what is read from any text is read again when it
is written. An object that says of a result what belongs to it, in any order and with whatever else
between, is read as that result; the warnings may be missing, and the place of a message may be
missing or nothing (`Build.Result.ofJson_inverts_toJson`). -/

namespace BundleFinish.Build

open JsonText JsonText.Read

/-! ## The schemas of results -/

namespace Location

/-- Each part of a place stands alone. -/
theorem hasField_schema :
    Schema.HasField "file" (.text "a string") (·.file) schema ∧
      Schema.HasField "line" (.natural maxPlace "u32") (·.line) schema ∧
      Schema.HasField "column" (.natural maxPlace "u32") (·.column) schema := by
  refine ⟨.record ?_, .record ?_, .record ?_⟩
  all_goals
    repeat refine .there (by decide) (fun _ _ => rfl) ?_
    refine .here (fun _ _ => rfl) ?_
    repeat refine .cons (fun _ _ => rfl) ?_
    exact .nil

/-- A place can be read back. -/
theorem regular_schema : schema.Regular := by
  refine ⟨⟨⟨fun _ => rfl, fun _ => rfl, fun _ => rfl, trivial⟩, fun a b agree => ?_⟩, by decide, ?_⟩
  · obtain ⟨file, line, column⟩ := hasField_schema
    cases a
    cases b
    rw [mk.injEq]
    exact ⟨agree file.fields, agree line.fields, agree column.fields⟩
  · have within : maxPlace ≤ maxUnsigned := by decide
    exact ⟨trivial, nofun, within, nofun, within, nofun, trivial⟩

/-- The lines and columns of places that are read are within their limit. -/
theorem steady_schema : schema.Steady := by
  refine ⟨⟨trivial, Nat.zero_le _, Nat.zero_le _, trivial⟩, ?_⟩
  exact ⟨trivial, fun _ _ fits _ => ⟨trivial, fits.2⟩, trivial,
    fun _ _ fits part => ⟨trivial, part, fits.2.2⟩, trivial,
    fun _ _ fits part => ⟨trivial, fits.2.1, part, trivial⟩, trivial⟩

end Location

namespace Message

/-- Each part of a message stands alone. -/
theorem hasField_schema :
    Schema.HasField "id" (.text "a string") (·.id) schema ∧
      Schema.HasField "plugin_name" (.text "a string") (·.stage) schema ∧
      Schema.HasField "text" (.text "a string") (·.text) schema ∧
      Schema.HasField "location" (.optional Location.schema) (·.location) schema := by
  refine ⟨.record ?_, .record ?_, .record ?_, .record ?_⟩
  all_goals
    repeat refine .there (by decide) (fun _ _ => rfl) ?_
    refine .here (fun _ _ => rfl) ?_
    repeat refine .cons (fun _ _ => rfl) ?_
    exact .nil

/-- A message can be read back. -/
theorem regular_schema : schema.Regular := by
  refine ⟨⟨⟨fun _ => rfl, fun _ => rfl, fun _ => rfl, fun _ => rfl, trivial⟩, fun a b agree => ?_⟩,
    by decide, ?_⟩
  · obtain ⟨id, stage, text, location⟩ := hasField_schema
    cases a
    cases b
    rw [mk.injEq]
    exact ⟨agree id.fields, agree stage.fields, agree text.fields, agree location.fields⟩
  · exact ⟨trivial, nofun, trivial, nofun, trivial, nofun, ⟨rfl, Location.regular_schema⟩, nofun,
      trivial⟩

/-- Messages that are read have places within the limits. -/
theorem steady_schema : schema.Steady := by
  refine ⟨⟨trivial, trivial, trivial, trivial, trivial⟩, ?_⟩
  exact ⟨trivial, fun _ _ fits _ => fits, trivial, fun _ _ fits _ => fits, trivial,
    fun _ _ fits _ => fits, Location.steady_schema,
    fun _ _ _ part => ⟨trivial, trivial, trivial, part, trivial⟩, trivial⟩

end Message

namespace Result

/-- The errors and the warnings of a result stand alone. -/
theorem hasField_schema :
    Schema.HasField "errors" (.list Message.schema) (·.errors) schema ∧
      Schema.HasField "warnings" (.list Message.schema) (·.warnings) schema := by
  refine ⟨.record ?_, .record ?_⟩
  all_goals
    repeat refine .there (by decide) (fun _ _ => rfl) ?_
    refine .here (fun _ _ => rfl) ?_
    repeat refine .cons (fun _ _ => rfl) ?_
    exact .nil

/-- A result can be read back. -/
theorem regular_schema : schema.Regular := by
  refine ⟨⟨⟨fun _ => rfl, fun _ => rfl, trivial⟩, fun a b agree => ?_⟩, by decide, ?_⟩
  · obtain ⟨errors, warnings⟩ := hasField_schema
    cases a
    cases b
    rw [mk.injEq]
    exact ⟨agree errors.fields, agree warnings.fields⟩
  · exact ⟨Message.regular_schema, nofun, Message.regular_schema, nofun, trivial⟩

/-- Results that are read have places within the limits. -/
theorem steady_schema : schema.Steady := by
  refine ⟨⟨nofun, nofun, trivial⟩, ?_⟩
  exact ⟨Message.steady_schema, fun _ _ fits part => ⟨part, fits.2⟩, Message.steady_schema,
    fun _ _ fits part => ⟨fits.1, part, trivial⟩, trivial⟩

/-- Results are not too deep to be read. -/
theorem height_schema : schema.height ≤ maxDepth := by decide

end Result

/-! ## What an object says -/

/-- Entries say a place: each of its parts once, in any order, and whatever else. -/
structure Location.SaidIn (place : Location) (entries : Entries (List Char)) : Prop where
  file : ∃ spelled, entries.named "file" = [spelled] ∧ SpellsString place.file spelled
  line : place.line ≤ maxPlace ∧ entries.named "line" = [(toString place.line).toList]
  column : place.column ≤ maxPlace ∧ entries.named "column" = [(toString place.column).toList]
  others : ∀ entry ∈ entries, entry.1 ∉ ["file", "line", "column"] → IsJson entry.2

/-- An object says a place. -/
def Location.SaidBy (place : Location) (spelled : List Char) : Prop :=
  ∃ entries, SpellsObject entries spelled ∧ place.SaidIn entries

/-- Entries say a message: each of its parts once, in any order, and whatever else. Where there is no
place, nothing is said of it, or that it is nothing. -/
structure Message.SaidIn (message : Message) (entries : Entries (List Char)) : Prop where
  id : ∃ spelled, entries.named "id" = [spelled] ∧ SpellsString message.id spelled
  stage : ∃ spelled, entries.named "plugin_name" = [spelled] ∧ SpellsString message.stage spelled
  text : ∃ spelled, entries.named "text" = [spelled] ∧ SpellsString message.text spelled
  location : match message.location with
    | none => entries.named "location" = [] ∨ entries.named "location" = ["null".toList]
    | some place => ∃ spelled, entries.named "location" = [spelled] ∧ place.SaidBy spelled
  others : ∀ entry ∈ entries, entry.1 ∉ ["id", "plugin_name", "text", "location"] → IsJson entry.2

/-- An object says a message. -/
def Message.SaidBy (message : Message) (spelled : List Char) : Prop :=
  ∃ entries, SpellsObject entries spelled ∧ message.SaidIn entries

/-- A list says messages, one after the other. -/
def Message.ListedBy (messages : List Message) (spelled : List Char) : Prop :=
  ∃ items, SpellsList items spelled ∧ List.Forall₂ SaidBy messages items

/-- Entries say a result: its errors once, and its warnings once, or, if there are none, not at all;
in any order, and whatever else. -/
structure Result.SaidIn (result : Result) (entries : Entries (List Char)) : Prop where
  errors : ∃ spelled, entries.named "errors" = [spelled] ∧ Message.ListedBy result.errors spelled
  warnings : (entries.named "warnings" = [] ∧ result.warnings = []) ∨
    ∃ spelled, entries.named "warnings" = [spelled] ∧ Message.ListedBy result.warnings spelled
  others : ∀ entry ∈ entries, entry.1 ∉ ["errors", "warnings"] → IsJson entry.2

/-- A text says a result, with any white space around. -/
def Result.SaidBy (result : Result) (text : String) : Prop :=
  ∃ front spelled back entries, IsGap front ∧ IsGap back ∧ SpellsObject entries spelled ∧
    result.SaidIn entries ∧ text.toList = front ++ (spelled ++ back)

/-- An object begins with its brace. -/
theorem exists_eq_brace {entries : Entries (List Char)} {spelled : List Char}
    (spells : SpellsObject entries spelled) : ∃ rest, spelled = '\x7b' :: rest := by
  obtain ⟨parts, inner, -, -, rfl⟩ := spells
  exact ⟨_, rfl⟩

/-- An object that says a place is taken for it. -/
theorem Location.SaidBy.takes {place : Location} {spelled : List Char} (said : place.SaidBy spelled)
    {depth : Nat} (deep : depth ≠ 0) : Takes (schema.read depth) spelled place := by
  obtain ⟨entries, spells, said⟩ := said
  obtain ⟨file, onceFile, spellsFile⟩ := said.file
  have within : maxPlace ≤ maxUnsigned := by decide
  refine Schema.takes_record_of_hear regular_schema.1 deep spells ⟨.inr ⟨file, onceFile, ?_⟩,
    .inr ⟨_, said.line.2, ?_⟩, .inr ⟨_, said.column.2, ?_⟩, trivial⟩ said.others
  · exact takes_text _ spellsFile
  · exact takes_unsigned _ said.line.1 within
  · exact takes_unsigned _ said.column.1 within

/-- An object that says a message is taken for it. -/
theorem Message.SaidBy.takes {message : Message} {spelled : List Char}
    (said : message.SaidBy spelled) {depth : Nat} (deep : 1 < depth) :
    Takes (schema.read depth) spelled message := by
  obtain ⟨entries, spells, said⟩ := said
  obtain ⟨id, onceId, spellsId⟩ := said.id
  obtain ⟨stage, onceStage, spellsStage⟩ := said.stage
  obtain ⟨text, onceText, spellsText⟩ := said.text
  refine Schema.takes_record_of_hear regular_schema.1 (by omega) spells
    ⟨.inr ⟨id, onceId, ?_⟩, .inr ⟨stage, onceStage, ?_⟩, .inr ⟨text, onceText, ?_⟩, ?_, trivial⟩
    said.others
  · exact takes_text _ spellsId
  · exact takes_text _ spellsStage
  · exact takes_text _ spellsText
  · have location := said.location
    cases given : message.location with
    | none =>
      rw [given] at location
      rcases location with absent | nothing
      · exact .inl ⟨absent, nofun, given⟩
      · refine .inr ⟨_, nothing, ?_⟩
        show Takes _ _ message.location
        rw [given]
        exact takes_null _
    | some place =>
      rw [given] at location
      obtain ⟨inner, once, saidPlace⟩ := location
      refine .inr ⟨inner, once, ?_⟩
      show Takes _ _ message.location
      rw [given]
      have takes := saidPlace.takes (show depth - 1 ≠ 0 by omega)
      obtain ⟨_, spellsPlace, -⟩ := saidPlace
      obtain ⟨rest, rfl⟩ := exists_eq_brace spellsPlace
      exact takes_some_of_begins rfl (by decide) takes

/-- A list that says messages is taken for them. -/
theorem Message.ListedBy.takes {messages : List Message} {spelled : List Char}
    (listed : Message.ListedBy messages spelled) {depth : Nat} (deep : 2 < depth) :
    Takes (listOf depth (schema.read (depth - 1))) spelled messages := by
  obtain ⟨items, ⟨inner, listed, rfl⟩, said⟩ := listed
  have each : List.Forall₂ (IsItem (schema.read (depth - 1))) items messages := by
    clear listed
    induction said with
    | nil => exact .nil
    | cons first _ ih =>
      have takes := SaidBy.takes first (show 1 < depth - 1 by omega)
      obtain ⟨_, spells, -⟩ := first
      obtain ⟨rest, rfl⟩ := exists_eq_brace spells
      exact .cons ⟨⟨_, rest, rfl, rfl, by decide⟩, takes⟩ ih
  exact takes_listOf listed each (by omega)

namespace Result

/-- An object that says a result is taken for it. -/
theorem SaidIn.takes {result : Result} {entries : Entries (List Char)}
    (said : result.SaidIn entries) {spelled : List Char} (spells : SpellsObject entries spelled) :
    Takes (schema.read maxDepth) spelled result := by
  obtain ⟨errors, onceErrors, listed⟩ := said.errors
  refine Schema.takes_record_of_hear regular_schema.1 (by decide) spells
    ⟨.inr ⟨errors, onceErrors, ?_⟩, ?_, trivial⟩ said.others
  · exact listed.takes (by decide)
  · rcases said.warnings with ⟨absent, none⟩ | ⟨warnings, once, listed⟩
    · exact .inl ⟨absent, nofun, none⟩
    · exact .inr ⟨warnings, once, listed.takes (by decide)⟩

/-! ## Reading back -/

/-- A result can be written: the lines and columns of its places are within 32 bits. -/
def IsWritable (result : Result) : Prop :=
  ∀ message ∈ result.errors ++ result.warnings, ∀ place ∈ message.location,
    place.line ≤ maxPlace ∧ place.column ≤ maxPlace

/-- A message whose place is within the limits fits its schema. -/
theorem fits_message {message : Message}
    (within : ∀ place ∈ message.location, place.line ≤ maxPlace ∧ place.column ≤ maxPlace) :
    Message.schema.Fits message := by
  have location : (Schema.optional Location.schema).Fits message.location := by
    cases given : message.location with
    | none => trivial
    | some place =>
      obtain ⟨line, column⟩ := within place given
      exact ⟨trivial, line, column, trivial⟩
  exact ⟨trivial, trivial, trivial, location, trivial⟩

/-- A result that can be written fits its schema. -/
theorem IsWritable.fits {result : Result} (writable : result.IsWritable) : schema.Fits result :=
  ⟨fun message member => fits_message (writable message (List.mem_append_left _ member)),
    fun message member => fits_message (writable message (List.mem_append_right _ member)), trivial⟩

/-- **Results are read back.** A result is what its JSON text is read as. What is read from any text
at all is what its own text is read as again, with errors exactly if there were any. A text that says
a result, whatever else it says, is read as that result. -/
theorem ofJson_inverts_toJson :
    (∀ result : Result, result.IsWritable → ofJson result.toJson = .ok result) ∧
      (∀ (text : String) (result : Result), ofJson text = .ok result →
        ofJson result.toJson = .ok result ∧
          (ofJson result.toJson).map hasErrors = (ofJson text).map hasErrors) ∧
      ∀ (result : Result) (text : String), result.SaidBy text → ofJson text = .ok result := by
  refine ⟨fun result writable => ?_, fun text result read => ?_, fun result text said => ?_⟩
  · exact Schema.ofJson_toJson regular_schema height_schema writable.fits
  · have again : ofJson result.toJson = .ok result :=
      Schema.ofJson_toJson_of_ofJson regular_schema steady_schema height_schema read
    exact ⟨again, by rw [again, read]⟩
  · obtain ⟨front, spelled, back, entries, isFront, isBack, spells, said, shape⟩ := said
    exact Schema.ofJson_of_takes (said.takes spells) isFront isBack shape

/-- A result with a place at the end of the largest line, and a text that is written with escapes. -/
def escaped : Result where
  errors := [⟨"parse", "host", "a \"b\"\n\t\\ é", some ⟨"src/größe.ts", maxPlace, 7⟩⟩]
  warnings := [⟨"", "fob-dts", "", none⟩]

/-- A result with one error without a place. -/
def single : Result where
  errors := [⟨"a", "b", "é", none⟩]
  warnings := []

/-- A text that says this message, in another order and with an escape. -/
def singleMessageText : String :=
  "\x7b\"text\":\"\\u00e9\",\"location\":null,\"id\":\"a\",\"plugin_name\":\"b\"\x7d"

/-- A text that says this result, without warnings and with something that is not asked for. -/
def singleText : String :=
  "\x7b\"tool\":-1.5e3, \"errors\":[" ++ singleMessageText ++ "]\x7d\n"

theorem ofJson_inverts_toJson_sample :
    ofJson escaped.toJson = .ok escaped ∧ ofJson singleText = .ok single ∧
      ofJson single.toJson = .ok single ∧
        (ofJson single.toJson).map hasErrors = (ofJson singleText).map hasErrors := by
  have writable : escaped.IsWritable := by
    unfold IsWritable
    decide
  have nothing : IsGap [] := List.forall_mem_nil _
  have space : IsGap [' '] := List.forall_mem_singleton.mpr rfl
  have newline : IsGap ['\n'] := List.forall_mem_singleton.mpr rfl
  have entry : ∀ (key : String) (spelled : List Char),
      SpellsEntry (key, spelled) ((Write.string key).toList ++ ':' :: spelled) :=
    fun key spelled => ⟨_, [], [], spellsString_string key, nothing, nothing, rfl⟩
  have text : SpellsString "é" "\"\\u00e9\"".toList :=
    ⟨_, .cons (.unit (show fourDigits? "00e9".toList = some 233 by decide)) .nil,
      by decide +kernel⟩
  have message : Message.SaidBy ⟨"a", "b", "é", none⟩ singleMessageText.toList :=
    ⟨[("text", "\"\\u00e9\"".toList), ("location", "null".toList),
        ("id", (Write.string "a").toList), ("plugin_name", (Write.string "b").toList)],
      ⟨_, _, .cons (entry _ _) (.cons (entry _ _) (.cons (entry _ _) (.cons (entry _ _) .nil))),
        .more nothing nothing (.more nothing nothing (.more nothing nothing (.last nothing nothing))),
        by decide +kernel⟩,
      ⟨⟨_, rfl, spellsString_string "a"⟩, ⟨_, rfl, spellsString_string "b"⟩, ⟨_, rfl, text⟩,
        .inr rfl, by simp⟩⟩
  have digit : ∀ {c : Char}, c.isDigit = true → AreDigits [c] := fun isDigit =>
    ⟨List.cons_ne_nil _ _, List.forall_mem_singleton.mpr isDigit⟩
  have tool : IsJson "-1.5e3".toList :=
    .negative ⟨['1'], ['.', '5'], ['e', '3'], digit rfl, by decide, .inr ⟨['5'], digit rfl, rfl⟩,
      .inr ⟨'e', [], ['3'], .inl rfl, .inl rfl, digit rfl, rfl⟩, rfl⟩
  have said : single.SaidBy singleText :=
    ⟨[], _, ['\n'], [("tool", "-1.5e3".toList), ("errors", ("[" ++ singleMessageText ++ "]").toList)],
      nothing, newline,
      ⟨_, _, .cons (entry _ _) (.cons (entry _ _) .nil), .more nothing nothing (.last space nothing),
        rfl⟩,
      ⟨⟨_, rfl, [_], ⟨_, .last nothing nothing, by simp⟩, .cons message .nil⟩, .inl ⟨rfl, rfl⟩,
        by simpa using tool⟩,
      by decide +kernel⟩
  obtain ⟨written, again, heard⟩ := ofJson_inverts_toJson
  have read := heard single singleText said
  exact ⟨written escaped writable, read, again singleText single read⟩

end Result

end BundleFinish.Build
