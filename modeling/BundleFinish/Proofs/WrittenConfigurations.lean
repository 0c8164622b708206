import BundleFinish.Proofs.Precedence
import BundleFinish.Proofs.SchemaSettings
import BundleFinish.Proofs.SchemaWriting

/-! # Configurations that were written

A configuration is read back as it was written, as a text and as a layer of settings, if its paths
are text. An object that says something of a configuration and nothing else, in whatever spelling,
is read as the configuration that has what is said, and the defaults for all the rest
(`Configuration.reads_back`). -/

namespace BundleFinish

open JsonText Settings

/-! ## The schemas of configurations -/

/-- How declarations are emitted can be read back. -/
theorem DeclarationConfiguration.regular_schema : schema.Regular := by
  refine ⟨⟨?_, fun a b agree => ?_⟩, by decide, ?_⟩
  · exact ⟨fun _ => rfl, fun _ => rfl, fun _ => rfl, fun _ => rfl, fun _ => rfl, fun _ => rfl,
      fun _ => rfl, trivial⟩
  · obtain ⟨enabled, target, module', declarationMap, stripInternal, tsc, timeoutSecs⟩ :=
      Configuration.hasField_declarations
    cases a
    cases b
    rw [mk.injEq]
    exact ⟨agree enabled.fields, agree target.fields, agree module'.fields,
      agree declarationMap.fields, agree stripInternal.fields, agree tsc.fields,
      agree timeoutSecs.fields⟩
  · exact ⟨trivial, nofun, Declarations.Target.lookup_name, nofun,
      Declarations.ModuleKind.lookup_name, nofun, trivial, nofun, trivial, nofun, ⟨rfl, trivial⟩,
      fun _ none => ⟨nofun, Option.isNone_iff_eq_none.mp none⟩, Nat.le_refl _, nofun, trivial⟩

/-- How scripts are wrapped can be read back. -/
theorem UmdConfiguration.regular_schema : schema.Regular := by
  refine ⟨⟨⟨fun _ => rfl, trivial⟩, fun a b agree => ?_⟩, by decide, trivial, nofun, trivial⟩
  cases a
  cases b
  rw [mk.injEq]
  exact agree Configuration.hasField_umd.fields

namespace Configuration

/-- A configuration can be read back. -/
theorem regular_schema : schema.Regular := by
  refine ⟨⟨?_, fun a b agree => ?_⟩, by decide, ?_⟩
  · exact ⟨fun _ => rfl, fun _ => rfl, fun _ => rfl, fun _ => rfl, fun _ => rfl, fun _ => rfl,
      fun _ => rfl, trivial⟩
  · obtain ⟨entryPoints, cwd, rootDir, outDir, loadFilter, declarations, umd⟩ := hasField_schema
    cases a
    cases b
    rw [mk.injEq]
    exact ⟨agree entryPoints.fields, agree cwd.fields, agree rootDir.fields, agree outDir.fields,
      agree loadFilter.fields, agree declarations.fields, agree umd.fields⟩
  · exact ⟨trivial, nofun, ⟨rfl, trivial⟩,
      fun _ none => ⟨nofun, Option.isNone_iff_eq_none.mp none⟩, trivial, nofun, trivial, nofun,
      trivial, nofun, DeclarationConfiguration.regular_schema, nofun,
      ⟨rfl, UmdConfiguration.regular_schema⟩,
      fun _ none => ⟨nofun, Option.isNone_iff_eq_none.mp none⟩, trivial⟩

/-- Configurations are not too deep to be read. -/
theorem height_schema : schema.height ≤ Read.maxDepth := by decide

end Configuration

/-! ## What an object says -/

/-- What may be said of how declarations are emitted, field by field. -/
structure DeclarationConfiguration.Stated where
  enabled : Option Bool := none
  target : Option Declarations.Target := none
  module : Option Declarations.ModuleKind := none
  declarationMap : Option Bool := none
  stripInternal : Option Bool := none
  tsc : Option (Option Path) := none
  timeoutSecs : Option Nat := none
  deriving DecidableEq

/-- What may be said of a configuration, field by field. -/
structure Configuration.Stated where
  entryPoints : Option (List Path) := none
  cwd : Option (Option Path) := none
  rootDir : Option Path := none
  outDir : Option Path := none
  loadFilter : Option String := none
  declarations : Option DeclarationConfiguration.Stated := none
  umd : Option (Option UmdConfiguration) := none
  deriving DecidableEq

/-- What entries say in one of them: what its value means to a schema, or nothing, if it is not
there. -/
def Entries.Says {α : Type} (entries : Entries Value) (name : String) (schema : Schema α) :
    (said : Option α) → Prop
  | some said => ∃ value, entries.get? name = some value ∧ schema.Means value said
  | none => entries.get? name = none

/-- A field is as its entry says, or as usual. -/
theorem Entries.Says.mean_getD {α : Type} {entries : Entries Value} {name : String}
    {schema : Schema α} {said : Option α} (here : entries.Says name schema said) (usual : α) :
    match entries.get? name with
    | some value => schema.Means value (said.getD usual)
    | none => Need.never ≠ .always ∧ said.getD usual = usual := by
  cases said with
  | none =>
    rw [show entries.get? name = none from here]
    exact ⟨nofun, rfl⟩
  | some meant =>
    obtain ⟨value, found, means⟩ := here
    rw [found]
    exact means

namespace DeclarationConfiguration.Stated

/-- What is said, and the defaults for the rest. -/
def complete (stated : Stated) : DeclarationConfiguration where
  enabled := stated.enabled.getD default.enabled
  target := stated.target.getD default.target
  module := stated.module.getD default.module
  declarationMap := stated.declarationMap.getD default.declarationMap
  stripInternal := stated.stripInternal.getD default.stripInternal
  tsc := stated.tsc.getD default.tsc
  timeoutSecs := stated.timeoutSecs.getD default.timeoutSecs

open BundleFinish.Configuration in
/-- Entries say this of how declarations are emitted, each field once at most, and nothing else. -/
structure SaidBy (stated : Stated) (entries : Entries Value) : Prop where
  distinct : (entries.map Prod.fst).Nodup
  known : ∀ entry ∈ entries, entry.1 ∈ ["enabled", "target", "module", "declaration_map",
    "strip_internal", "tsc", "timeout_secs"]
  enabled : entries.Says "enabled" enabledKey.schema stated.enabled
  target : entries.Says "target" targetKey.schema stated.target
  module : entries.Says "module" moduleKey.schema stated.module
  declarationMap : entries.Says "declaration_map" declarationMapKey.schema stated.declarationMap
  stripInternal : entries.Says "strip_internal" stripInternalKey.schema stated.stripInternal
  tsc : entries.Says "tsc" tscKey.schema stated.tsc
  timeoutSecs : entries.Says "timeout_secs" timeoutSecsKey.schema stated.timeoutSecs

end DeclarationConfiguration.Stated

/-- Entries that say something of declarations mean that, and the defaults for the rest. -/
theorem DeclarationConfiguration.Stated.SaidBy.means_complete {stated : Stated}
    {entries : Entries Value} (said : stated.SaidBy entries) :
    schema.Means (.map entries) stated.complete :=
  ⟨entries, rfl, said.distinct, said.known, said.enabled.mean_getD _, said.target.mean_getD _,
    said.module.mean_getD _, said.declarationMap.mean_getD _, said.stripInternal.mean_getD _,
    said.tsc.mean_getD _, said.timeoutSecs.mean_getD _, trivial⟩

namespace Configuration

/-- What is said, and the defaults for the rest. -/
def Stated.complete (stated : Stated) : Configuration where
  entryPoints := stated.entryPoints.getD default.entryPoints
  cwd := stated.cwd.getD default.cwd
  rootDir := stated.rootDir.getD default.rootDir
  outDir := stated.outDir.getD default.outDir
  loadFilter := stated.loadFilter.getD default.loadFilter
  declarations := (stated.declarations.map (·.complete)).getD default.declarations
  umd := stated.umd.getD default.umd

/-- Entries say this of a configuration, each field once at most, and nothing else. What they say of
declarations is again an object, from which some fields may be missing. -/
structure Stated.SaidBy (stated : Stated) (entries : Entries Value) : Prop where
  distinct : (entries.map Prod.fst).Nodup
  known : ∀ entry ∈ entries, entry.1 ∈ ["entry_points", "cwd", "root_dir", "out_dir",
    "load_filter", "dts", "umd"]
  entryPoints : entries.Says "entry_points" entryPointsKey.schema stated.entryPoints
  cwd : entries.Says "cwd" cwdKey.schema stated.cwd
  rootDir : entries.Says "root_dir" rootDirKey.schema stated.rootDir
  outDir : entries.Says "out_dir" outDirKey.schema stated.outDir
  loadFilter : entries.Says "load_filter" loadFilterKey.schema stated.loadFilter
  declarations : match stated.declarations with
    | some declarations =>
      ∃ inner, entries.get? "dts" = some (.map inner) ∧ declarations.SaidBy inner
    | none => entries.get? "dts" = none
  umd : entries.Says "umd" (.optional UmdConfiguration.schema) stated.umd

/-- Entries that say something of a configuration mean that, and the defaults for the rest. -/
theorem Stated.SaidBy.means_complete {stated : Stated} {entries : Entries Value}
    (said : stated.SaidBy entries) : schema.Means (.map entries) stated.complete := by
  have declarations : entries.Says "dts" DeclarationConfiguration.schema
      (stated.declarations.map (·.complete)) := by
    have inner := said.declarations
    cases given : stated.declarations with
    | none => rwa [given] at inner
    | some declarations =>
      rw [given] at inner
      obtain ⟨entries, found, saidOf⟩ := inner
      exact ⟨_, found, saidOf.means_complete⟩
  exact ⟨entries, rfl, said.distinct, said.known, said.entryPoints.mean_getD _,
    said.cwd.mean_getD _, said.rootDir.mean_getD _, said.outDir.mean_getD _,
    said.loadFilter.mean_getD _, declarations.mean_getD _, said.umd.mean_getD _, trivial⟩

/-! ## Reading back -/

/-- A configuration can be written: its paths are text, and its timeout is within 64 bits. -/
structure IsWritable (configuration : Configuration) : Prop where
  entryPoints : ∀ path ∈ configuration.entryPoints, path.IsText
  cwd : ∀ path ∈ configuration.cwd, path.IsText
  rootDir : configuration.rootDir.IsText
  outDir : configuration.outDir.IsText
  tsc : ∀ path ∈ configuration.declarations.tsc, path.IsText
  timeoutSecs : configuration.declarations.timeoutSecs ≤ maxTimeoutSecs

/-- A path that may be missing fits its schema if it is text where it is not. -/
theorem fits_optional_path {path : Option Path} (isText : ∀ given ∈ path, given.IsText) :
    (Schema.optional .path).Fits path := by
  cases path with
  | none => trivial
  | some given => exact isText given rfl

/-- A configuration that can be written fits its schema. -/
theorem IsWritable.fits {configuration : Configuration} (writable : configuration.IsWritable) :
    schema.Fits configuration := by
  have umd : (Schema.optional UmdConfiguration.schema).Fits configuration.umd := by
    cases configuration.umd with
    | none => trivial
    | some umd => exact ⟨trivial, trivial⟩
  have declarations : DeclarationConfiguration.schema.Fits configuration.declarations :=
    ⟨trivial, trivial, trivial, trivial, trivial, fits_optional_path writable.tsc,
      writable.timeoutSecs, trivial⟩
  exact ⟨writable.entryPoints, fits_optional_path writable.cwd, writable.rootDir, writable.outDir,
    trivial, declarations, umd, trivial⟩

/-- **Configurations are read back.** A configuration whose paths are text is what its JSON text is
read as, and what is taken out of the settings of which it is the only layer. An object with any of
the fields, at both levels, in any spelling, is read as what it says, with the defaults for the
fields that are not there. -/
theorem reads_back :
    (∀ configuration : Configuration, configuration.IsWritable →
      ofJson configuration.toJson = .ok configuration ∧
        ofSettings (.ofValue .defaults (schema.toValue configuration)) = .ok configuration) ∧
      ∀ (stated : Stated) (entries : Entries Value) (text : String), stated.SaidBy entries →
        SpelledBy (.map entries) text → ofJson text = .ok stated.complete := by
  refine ⟨fun configuration writable => ⟨?_, ?_⟩, fun stated entries text said spelled => ?_⟩
  · exact Schema.ofJson_toJson regular_schema height_schema writable.fits
  · exact schema.extract_ofValue regular_schema (schema.means_toValue regular_schema writable.fits)
      [] .defaults
  · exact Schema.ofJson_of_spells regular_schema height_schema said.means_complete spelled

/-- A configuration with paths and texts that are written with escapes. -/
def escaped : Configuration :=
  { default with
    entryPoints := [.ofString "src/a \"b\".ts"], cwd := some (.ofString "C:\\base")
    loadFilter := "\t\n", umd := some ⟨"Ünit"⟩
    declarations := { DeclarationConfiguration.default with tsc := some (.ofString "bin/tsc") } }

/-- A base directory is given, and that no declarations are emitted. -/
def partlyStated : Stated :=
  { cwd := some (some (.ofString "ab")), declarations := some { enabled := some false } }

/-- The entries of an object that says this. -/
def partlyStatedEntries : Entries Value :=
  [("cwd", .text "ab"), ("dts", .map [("enabled", .bool false)])]

/-- A text for such an object, with white space and an escape. -/
def partlyStatedText : String :=
  "\x7b \"cwd\" :\n\"a\\u0062\", \"dts\":\x7b\"enabled\":false\x7d\x7d"

theorem reads_back_sample :
    ofJson escaped.toJson = .ok escaped ∧
      ofSettings (.ofValue .defaults (schema.toValue escaped)) = .ok escaped ∧
      ofJson partlyStatedText = .ok partlyStated.complete := by
  have writable : escaped.IsWritable :=
    ⟨by decide +kernel, by decide +kernel, by decide +kernel, by decide +kernel, by decide +kernel,
      by decide +kernel⟩
  have said : partlyStated.SaidBy partlyStatedEntries := by
    have declarations : DeclarationConfiguration.Stated.SaidBy { enabled := some false }
        [("enabled", .bool false)] :=
      ⟨by decide, by decide, ⟨_, rfl, rfl⟩, rfl, rfl, rfl, rfl, rfl, rfl⟩
    exact ⟨by decide, by decide, rfl, ⟨_, rfl, by rintro ⟨⟩, _, rfl, rfl⟩, rfl, rfl, rfl,
      ⟨_, rfl, declarations⟩, rfl⟩
  have nothing : IsGap [] := List.forall_mem_nil _
  have space : IsGap [' '] := List.forall_mem_singleton.mpr rfl
  have newline : IsGap ['\n'] := List.forall_mem_singleton.mpr rfl
  have directory : SpellsString "ab" "\"a\\u0062\"".toList :=
    ⟨_, .cons (.plain (by decide) (by decide) (by decide))
      (.cons (.unit (show Read.fourDigits? "0062".toList = some 98 by decide)) .nil),
      by decide +kernel⟩
  have declarations : Spells (.map [("enabled", .bool false)])
      "\x7b\"enabled\":false\x7d".toList :=
    ⟨_, _, ⟨_, [], [], _, _, spellsString_string "enabled", nothing, nothing, rfl, rfl, rfl⟩,
      .last nothing nothing, by decide +kernel⟩
  have object : Spells (.map partlyStatedEntries) partlyStatedText.toList :=
    ⟨_, _, ⟨_, [' '], ['\n'], _, _, spellsString_string "cwd", space, newline, directory,
      ⟨_, [], [], _, _, spellsString_string "dts", nothing, nothing, declarations, rfl, rfl⟩, rfl⟩,
      .more space nothing (.last space nothing), by decide +kernel⟩
  obtain ⟨read, heard⟩ := reads_back
  exact ⟨(read _ writable).1, (read _ writable).2,
    heard _ _ _ said ⟨[], _, [], nothing, nothing, object, by decide +kernel⟩⟩

end Configuration

end BundleFinish
