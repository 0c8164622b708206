import BundleFinish.Proofs.LeafKeys
import BundleFinish.Proofs.Trees

/-! # Which layer a configuration is from

At each leaf key, a configuration has what the highest layer says that says anything: a flag, else a
variable, else the settings file, else the default (`Configuration.configured`). What layers say at
one key does not matter at another. -/

namespace BundleFinish

open Settings

namespace Configuration

/-! ## A configuration, key by key -/

/-- Each field of how declarations are emitted stands alone. -/
theorem hasField_declarations :
    Schema.HasField "enabled" enabledKey.schema (·.enabled) DeclarationConfiguration.schema ∧
      Schema.HasField "target" targetKey.schema (·.target) DeclarationConfiguration.schema ∧
      Schema.HasField "module" moduleKey.schema (·.module) DeclarationConfiguration.schema ∧
      Schema.HasField "declaration_map" declarationMapKey.schema (·.declarationMap)
        DeclarationConfiguration.schema ∧
      Schema.HasField "strip_internal" stripInternalKey.schema (·.stripInternal)
        DeclarationConfiguration.schema ∧
      Schema.HasField "tsc" tscKey.schema (·.tsc) DeclarationConfiguration.schema ∧
      Schema.HasField "timeout_secs" timeoutSecsKey.schema (·.timeoutSecs)
        DeclarationConfiguration.schema := by
  refine ⟨.record ?_, .record ?_, .record ?_, .record ?_, .record ?_, .record ?_, .record ?_⟩
  -- Past the fields in front of it, at the field, and past those behind it.
  all_goals
    repeat refine .there (by decide) (fun _ _ => rfl) ?_
    refine .here (fun _ _ => rfl) ?_
    repeat refine .cons (fun _ _ => rfl) ?_
    exact .nil

/-- So does the field of how scripts are wrapped. -/
theorem hasField_umd :
    Schema.HasField "global_name" globalNameKey.schema (·.globalName) UmdConfiguration.schema :=
  .record (.here (fun _ _ => rfl) .nil)

/-- Each field of a configuration stands alone. -/
theorem hasField_schema :
    Schema.HasField "entry_points" entryPointsKey.schema (·.entryPoints) schema ∧
      Schema.HasField "cwd" cwdKey.schema (·.cwd) schema ∧
      Schema.HasField "root_dir" rootDirKey.schema (·.rootDir) schema ∧
      Schema.HasField "out_dir" outDirKey.schema (·.outDir) schema ∧
      Schema.HasField "load_filter" loadFilterKey.schema (·.loadFilter) schema ∧
      Schema.HasField "dts" DeclarationConfiguration.schema (·.declarations) schema ∧
      Schema.HasField "umd" (.optional UmdConfiguration.schema) (·.umd) schema := by
  refine ⟨.record ?_, .record ?_, .record ?_, .record ?_, .record ?_, .record ?_, .record ?_⟩
  all_goals
    repeat refine .there (by decide) (fun _ _ => rfl) ?_
    refine .here (fun _ _ => rfl) ?_
    repeat refine .cons (fun _ _ => rfl) ?_
    exact .nil

/-- Settings that a configuration can be taken out of: open on the way to every leaf key, and with a
value of its form there, if with any. -/
structure Legible (settings : Setting) : Prop where
  isOpen : ∀ key ∈ leafKeys, settings.IsOpen key.2.names
  wellTyped : ∀ key ∈ leafKeys, key.2.WellTyped settings

/-- What settings say of declarations, key by key. -/
def saidDeclarations (settings : Setting) : DeclarationConfiguration :=
  { enabled := (enabledKey.said? settings).getD DeclarationConfiguration.default.enabled
    target := (targetKey.said? settings).getD DeclarationConfiguration.default.target
    module := (moduleKey.said? settings).getD DeclarationConfiguration.default.module
    declarationMap :=
      (declarationMapKey.said? settings).getD DeclarationConfiguration.default.declarationMap
    stripInternal :=
      (stripInternalKey.said? settings).getD DeclarationConfiguration.default.stripInternal
    tsc := (tscKey.said? settings).getD DeclarationConfiguration.default.tsc
    timeoutSecs :=
      (timeoutSecsKey.said? settings).getD DeclarationConfiguration.default.timeoutSecs }

/-- What settings say of a configuration, key by key. -/
def said (settings : Setting) : Configuration :=
  { entryPoints := (entryPointsKey.said? settings).getD default.entryPoints
    cwd := (cwdKey.said? settings).getD default.cwd
    rootDir := (rootDirKey.said? settings).getD default.rootDir
    outDir := (outDirKey.said? settings).getD default.outDir
    loadFilter := (loadFilterKey.said? settings).getD default.loadFilter
    declarations := saidDeclarations settings
    umd := (globalNameKey.said? settings).map fun globalName => { globalName } }

namespace Legible

variable {settings : Setting}

variable {α β : Type} {front : List String} {name : String} {origin : Origin}
  {entries : Entries Setting}

/-- What settings have at a leaf key is an entry of a group in front of it. -/
theorem at?_eq (key : LeafKey α) (found : settings.at? front = some (.group origin entries))
    (shape : key.names = front ++ [name]) : settings.at? key.names = entries.get? name := by
  rw [shape, Setting.at?_append, found, Option.bind_some, Setting.at?]
  exact Option.bind_fun_some _

/-- An entry at a leaf key is a value of its form. -/
theorem exists_extract (legible : Legible settings) (key : LeafKey α)
    (member : ⟨α, key⟩ ∈ leafKeys) (found : settings.at? front = some (.group origin entries))
    (shape : key.names = front ++ [name]) (setting : Setting)
    (here : entries.get? name = some setting) :
    ∃ value, key.schema.extract (front ++ [name]) setting = .ok value := by
  rw [← shape]
  exact legible.wellTyped _ member setting ((at?_eq key found shape).trans here)

/-- A record that is filled from the entries of a group has in a field what is said of its key. -/
theorem view_eq {schema : Schema β} {start record : β} {view : β → α} (key : LeafKey α)
    (filled : schema.Filled front entries start record)
    (has : Schema.HasField name key.schema view schema)
    (found : settings.at? front = some (.group origin entries))
    (shape : key.names = front ++ [name]) :
    view record = (key.said? settings).getD (view start) := by
  rw [filled has, LeafKey.said?, at?_eq key found shape, shape]

/-- Declarations are as the settings say, key by key. -/
theorem extract_declarations (legible : Legible settings) {group : Setting}
    (found : settings.at? ["dts"] = some group) :
    DeclarationConfiguration.schema.extract ["dts"] group = .ok (saidDeclarations settings) := by
  have isOpen : group.IsOpen ["enabled"] :=
    Setting.isOpen_of_at? found (legible.isOpen ⟨_, enabledKey⟩ (by simp [leafKeys]))
  obtain ⟨origin, entries, rfl⟩ := isOpen.isGroup
  have result : ∃ record,
      DeclarationConfiguration.schema.extract ["dts"] (.group origin entries) = .ok record ∧
        DeclarationConfiguration.schema.Filled ["dts"] entries .default record :=
    Schema.exists_extract_record
      (.cons (legible.exists_extract enabledKey (by simp [leafKeys]) found rfl) <|
        .cons (legible.exists_extract targetKey (by simp [leafKeys]) found rfl) <|
        .cons (legible.exists_extract moduleKey (by simp [leafKeys]) found rfl) <|
        .cons (legible.exists_extract declarationMapKey (by simp [leafKeys]) found rfl) <|
        .cons (legible.exists_extract stripInternalKey (by simp [leafKeys]) found rfl) <|
        .cons (legible.exists_extract tscKey (by simp [leafKeys]) found rfl) <|
        .cons (legible.exists_extract timeoutSecsKey (by simp [leafKeys]) found rfl) .nil)
      isOpen.sorted rfl
  obtain ⟨record, done, filled⟩ := result
  obtain ⟨enabled, target, module', declarationMap, stripInternal, tsc, timeoutSecs⟩ :=
    hasField_declarations
  rw [done, saidDeclarations, ← view_eq enabledKey filled enabled found rfl,
    ← view_eq targetKey filled target found rfl, ← view_eq moduleKey filled module' found rfl,
    ← view_eq declarationMapKey filled declarationMap found rfl,
    ← view_eq stripInternalKey filled stripInternal found rfl,
    ← view_eq tscKey filled tsc found rfl, ← view_eq timeoutSecsKey filled timeoutSecs found rfl]

/-- A global name is as the settings say. -/
theorem extract_umd (legible : Legible settings) {group : Setting}
    (found : settings.at? ["umd"] = some group) :
    (Schema.optional UmdConfiguration.schema).extract ["umd"] group =
      match globalNameKey.said? settings with
      | some globalName => .ok (some { globalName })
      | none => .error ⟨.missingField "global_name", ["umd"], some group.origin⟩ := by
  have isOpen : group.IsOpen ["global_name"] :=
    Setting.isOpen_of_at? found (legible.isOpen ⟨_, globalNameKey⟩ (by simp [leafKeys]))
  obtain ⟨origin, entries, rfl⟩ := isOpen.isGroup
  have there := at?_eq globalNameKey found rfl
  have accepts := legible.exists_extract globalNameKey (by simp [leafKeys]) found rfl
  -- The one field of the group is required, so all depends on whether there is an entry for it.
  cases here : Entries.get? "global_name" entries with
  | none =>
    have refused : UmdConfiguration.schema.extract ["umd"] (.group origin entries) =
        .error ⟨.missingField "global_name", ["umd"], some origin⟩ := by
      refine Schema.extract_record_eq_missing (.cons accepts .nil) isOpen.sorted ?_
      rw [Fields.field, Fields.missing?, Entries.contains_map_fst, here]
      rfl
    rw [LeafKey.said?, there, here, Option.bind_none, Schema.extract_optional_group, refused]
    rfl
  | some setting =>
    obtain ⟨globalName, read⟩ := accepts setting here
    have result : ∃ record,
        UmdConfiguration.schema.extract ["umd"] (.group origin entries) = .ok record ∧
          UmdConfiguration.schema.Filled ["umd"] entries { globalName := "" } record := by
      refine Schema.exists_extract_record (.cons accepts .nil) isOpen.sorted ?_
      rw [Fields.field, Fields.missing?, Entries.contains_map_fst, here]
      rfl
    obtain ⟨record, done, filled⟩ := result
    have heard : globalNameKey.said? settings = some globalName := by
      rw [LeafKey.said?, there, here, Option.bind_some]
      exact congrArg Except.toOption read
    have shown : record.globalName = globalName := by
      have shown := view_eq globalNameKey filled hasField_umd found rfl
      rwa [heard] at shown
    rw [heard, Schema.extract_optional_group, done, ← shown]
    rfl

/-- Where there is no group, nothing is said of the keys below it. -/
theorem said?_eq_none (key : LeafKey α) (absent : settings.at? front = none)
    (shape : key.names = front ++ [name]) : key.said? settings = none := by
  rw [LeafKey.said?, shape, Setting.at?_append, absent]
  rfl

/-- Where nothing is said of declarations, they are as usual. -/
theorem saidDeclarations_eq_default (absent : settings.at? ["dts"] = none) :
    saidDeclarations settings = .default := by
  have silent : ∀ {α : Type} (key : LeafKey α) {name : String}, key.names = ["dts"] ++ [name] →
      key.said? settings = none := fun key _ shape => said?_eq_none key absent shape
  rw [saidDeclarations, silent enabledKey rfl, silent targetKey rfl, silent moduleKey rfl,
    silent declarationMapKey rfl, silent stripInternalKey rfl, silent tscKey rfl,
    silent timeoutSecsKey rfl]
  rfl

variable {record : Configuration}

/-- A name alone is a key. -/
theorem at?_singleton (name : String) :
    (Setting.group origin entries).at? [name] = Entries.get? name entries :=
  Option.bind_fun_some _

/-- The declarations of a configuration that is filled from settings are what the settings say. -/
theorem declarations_eq (legible : Legible (.group origin entries))
    (filled : schema.Filled [] entries default record) :
    record.declarations = saidDeclarations (.group origin entries) := by
  obtain ⟨_, _, _, _, _, hasDeclarations, _⟩ := hasField_schema
  refine (filled hasDeclarations).trans ?_
  cases here : Entries.get? "dts" entries with
  | none => exact (saidDeclarations_eq_default ((at?_singleton "dts").trans here)).symm
  | some group =>
    rw [Option.bind_some]
    show ((DeclarationConfiguration.schema.extract ["dts"] group).toOption).getD _ = _
    rw [legible.extract_declarations ((at?_singleton "dts").trans here)]
    rfl

/-- Scripts are wrapped, with the global name that the settings say, if there is a group for it. -/
theorem umd_eq (legible : Legible (.group origin entries))
    (filled : schema.Filled [] entries default record)
    (named : ∀ group, Entries.get? "umd" entries = some group →
      ∃ globalName, globalNameKey.said? (.group origin entries) = some globalName) :
    record.umd =
      (globalNameKey.said? (.group origin entries)).map fun globalName => { globalName } := by
  obtain ⟨_, _, _, _, _, _, hasUmd⟩ := hasField_schema
  refine (filled hasUmd).trans ?_
  cases here : Entries.get? "umd" entries with
  | none =>
    rw [said?_eq_none globalNameKey ((at?_singleton "umd").trans here) rfl]
    rfl
  | some group =>
    obtain ⟨globalName, given⟩ := named group here
    rw [Option.bind_some]
    show (((Schema.optional UmdConfiguration.schema).extract ["umd"] group).toOption).getD _ = _
    rw [legible.extract_umd ((at?_singleton "umd").trans here), given]
    rfl

/-- **A configuration is what settings say, key by key**, if there is a global name where there is a
group for it. -/
theorem ofSettings_eq_ok (legible : Legible settings)
    (named : ∀ group, settings.at? ["umd"] = some group →
      ∃ globalName, globalNameKey.said? settings = some globalName) :
    ofSettings settings = .ok (said settings) := by
  have isOpen : settings.IsOpen ["entry_points"] :=
    legible.isOpen ⟨_, entryPointsKey⟩ (by simp [leafKeys])
  obtain ⟨origin, entries, rfl⟩ := isOpen.isGroup
  have found : (Setting.group origin entries).at? [] = some (.group origin entries) := rfl
  have declarations : ∀ group, Entries.get? "dts" entries = some group →
      ∃ value, DeclarationConfiguration.schema.extract ["dts"] group = .ok value :=
    fun group here => ⟨_, legible.extract_declarations ((at?_singleton "dts").trans here)⟩
  have umd : ∀ group, Entries.get? "umd" entries = some group →
      ∃ value, (Schema.optional UmdConfiguration.schema).extract ["umd"] group = .ok value := by
    intro group here
    obtain ⟨globalName, given⟩ := named group ((at?_singleton "umd").trans here)
    refine ⟨some { globalName }, ?_⟩
    rw [legible.extract_umd ((at?_singleton "umd").trans here), given]
  have result : ∃ record, schema.extract [] (.group origin entries) = .ok record ∧
      schema.Filled [] entries default record :=
    Schema.exists_extract_record
      (.cons (legible.exists_extract entryPointsKey (by simp [leafKeys]) found rfl) <|
        .cons (legible.exists_extract cwdKey (by simp [leafKeys]) found rfl) <|
        .cons (legible.exists_extract rootDirKey (by simp [leafKeys]) found rfl) <|
        .cons (legible.exists_extract outDirKey (by simp [leafKeys]) found rfl) <|
        .cons (legible.exists_extract loadFilterKey (by simp [leafKeys]) found rfl) <|
        .cons declarations <| .cons umd .nil)
      isOpen.sorted rfl
  obtain ⟨record, done, filled⟩ := result
  obtain ⟨entryPoints, cwd, rootDir, outDir, loadFilter, _⟩ := hasField_schema
  have wrapped := umd_eq legible filled fun group here =>
    named group ((at?_singleton "umd").trans here)
  rw [ofSettings, done, said, ← view_eq entryPointsKey filled entryPoints found rfl,
    ← view_eq cwdKey filled cwd found rfl, ← view_eq rootDirKey filled rootDir found rfl,
    ← view_eq outDirKey filled outDir found rfl,
    ← view_eq loadFilterKey filled loadFilter found rfl,
    ← declarations_eq legible filled, ← wrapped]

/-- Settings with a group for a global name and no global name in it are refused. -/
theorem ofSettings_eq_error (legible : Legible settings) {group : Setting}
    (there : settings.at? ["umd"] = some group) (nameless : globalNameKey.said? settings = none) :
    ofSettings settings =
      .error ⟨.missingField "global_name", ["umd"], some group.origin⟩ := by
  have isOpen : settings.IsOpen ["entry_points"] :=
    legible.isOpen ⟨_, entryPointsKey⟩ (by simp [leafKeys])
  obtain ⟨origin, entries, rfl⟩ := isOpen.isGroup
  have found : (Setting.group origin entries).at? [] = some (.group origin entries) := rfl
  have refused := legible.extract_umd there
  rw [nameless] at refused
  -- Nothing else is refused, so this is what the whole is refused for.
  have but : ∀ {name : String}, name ≠ "umd" → ∀ {setting : Setting},
      (if name = "umd" then none else Entries.get? name entries) = some setting →
        Entries.get? name entries = some setting :=
    fun differ _ here => (if_neg differ).symm.trans here
  obtain ⟨_, _, _, _, _, _, hasUmd⟩ := hasField_schema
  exact Schema.extract_record_eq_error hasUmd isOpen.sorted ((at?_singleton "umd").symm.trans there)
    refused
    (.cons (fun _ here => legible.exists_extract entryPointsKey (by simp [leafKeys]) found rfl _
        (but (by decide) here)) <|
      .cons (fun _ here => legible.exists_extract cwdKey (by simp [leafKeys]) found rfl _
        (but (by decide) here)) <|
      .cons (fun _ here => legible.exists_extract rootDirKey (by simp [leafKeys]) found rfl _
        (but (by decide) here)) <|
      .cons (fun _ here => legible.exists_extract outDirKey (by simp [leafKeys]) found rfl _
        (but (by decide) here)) <|
      .cons (fun _ here => legible.exists_extract loadFilterKey (by simp [leafKeys]) found rfl _
        (but (by decide) here)) <|
      .cons (fun _ here => ⟨_, legible.extract_declarations
        ((at?_singleton "dts").trans (but (by decide) here))⟩) <|
      .cons (fun _ here => by rw [if_pos rfl] at here; cases here) .nil)

end Legible

/-! ## A configuration, layer by layer -/

open CommandLine (entriesFlag enabledFlag tscFlag)

/-- The configuration of a command line over some layers: at each key, what a flag says, else what
the last layer says that says anything, else the default. Scripts are wrapped if a global name is
given. -/
def configured (arguments : CommandLine.Arguments) (cwd : Path) (layers : List Setting) :
    Configuration :=
  { entryPoints :=
      ((entriesFlag arguments).or (entryPointsKey.given? layers)).getD default.entryPoints
    cwd := (cwdKey.given? layers).getD default.cwd
    rootDir := (arguments.rootDir.or (rootDirKey.given? layers)).getD default.rootDir
    outDir := (arguments.outDir.or (outDirKey.given? layers)).getD default.outDir
    loadFilter := (loadFilterKey.given? layers).getD default.loadFilter
    declarations :=
      { enabled :=
          ((enabledFlag arguments).or (enabledKey.given? layers)).getD default.declarations.enabled
        target := (targetKey.given? layers).getD default.declarations.target
        module := (moduleKey.given? layers).getD default.declarations.module
        declarationMap :=
          (declarationMapKey.given? layers).getD default.declarations.declarationMap
        stripInternal := (stripInternalKey.given? layers).getD default.declarations.stripInternal
        tsc := ((tscFlag arguments cwd).or (tscKey.given? layers)).getD default.declarations.tsc
        timeoutSecs := (timeoutSecsKey.given? layers).getD default.declarations.timeoutSecs }
    umd := (arguments.globalName.or (globalNameKey.given? layers)).map fun globalName =>
      { globalName } }

end Configuration

namespace CommandLine

open BundleFinish.Configuration

variable {arguments : Arguments} {cwd : Path} {workspace : Workspace} {file : Option Setting}
  {settings : Setting}

/-- The merged settings of a command line are a stack of layers. -/
theorem layers_eq_stack (read : fileLayer workspace (configPath arguments cwd) = .ok file)
    {assigned : List (List String × Value)} (made : assignments arguments cwd = .ok assigned) :
    layers arguments cwd workspace = .ok (.stack defaultLayer file
      (variableLayers workspace.environment) (flagLayers assigned)) := by
  have below : Configuration.layers workspace (some (configPath arguments cwd)) =
      .ok ((file.toList.foldl Setting.merge defaultLayer).merge
        (ofVariables workspace.environment)) := by
    rw [Configuration.layers]
    simp only [read]
    cases file <;> rfl
  rw [layers, below, made, Setting.stack, ← ofVariables_eq]
  show Except.ok (Setting.merge _ (.ofAssignments .flags assigned)) = _
  rw [Setting.ofAssignments_eq]
  rfl

/-- Settings that are merged are a stack of layers. -/
theorem exists_stack (read : fileLayer workspace (configPath arguments cwd) = .ok file)
    (merged : layers arguments cwd workspace = .ok settings) :
    ∃ assigned, assignments arguments cwd = .ok assigned ∧
      settings = .stack defaultLayer file (variableLayers workspace.environment)
        (flagLayers assigned) := by
  obtain ⟨below, _, onwards⟩ := exists_of_bind_eq_ok merged
  obtain ⟨assigned, made, _⟩ := exists_of_bind_eq_ok onwards
  exact ⟨assigned, made, Except.ok.inj (merged.symm.trans (layers_eq_stack read made))⟩

variable {environment : List (String × String)} {assigned : List (List String × Value)}

/-- The layers of a settings file, where there is one, and of variables. -/
def lowerLayers (file : Option Setting) (environment : List (String × String)) : List Setting :=
  file.toList ++ variableLayers environment

/-- **A stack of layers that fit is legible**, and says at each leaf key what the highest layer
says: a flag, else a variable, else the settings file, else the defaults. -/
theorem legible_stack (made : assignments arguments cwd = .ok assigned)
    (tidyFile : ∀ layer ∈ file.toList, layer.Tidy (fun _ => True) ∧ layer.IsGroup)
    (fits : ∀ layer ∈ lowerLayers file environment, Fits layer) :
    Legible (.stack defaultLayer file (variableLayers environment) (flagLayers assigned)) ∧
      ∀ {α : Type} (key : LeafKey α), ⟨α, key⟩ ∈ leafKeys →
        key.said? (.stack defaultLayer file (variableLayers environment) (flagLayers assigned)) =
          ((key.given? (flagLayers assigned)).or
            (key.given? (lowerLayers file environment))).or (key.said? defaultLayer) := by
  obtain ⟨fitsFile, fitsVariables⟩ := List.forall_mem_append.mp fits
  have openFile : ∀ key ∈ leafKeys, ∀ layer ∈ file.toList, layer.IsOpen key.2.names :=
    fun key known layer member =>
      (fitsFile layer member).isOpen (tidyFile layer member).1 (tidyFile layer member).2 known
  have settlesVariables : ∀ key ∈ leafKeys, ∀ layer ∈ variableLayers environment,
      layer.Settles key.2.names := fun key known layer member =>
    settles_of_mem_variableLayers member (fitsVariables layer member) known
  have settlesFlags : ∀ key ∈ leafKeys, ∀ layer ∈ flagLayers assigned, layer.Settles key.2.names :=
    fun key known layer member => (settles_of_mem_flagLayers made member known).1
  -- What the stack holds at a leaf key is what the last layer holds, which is well typed.
  have last : ∀ key ∈ leafKeys,
      (Setting.stack defaultLayer file (variableLayers environment) (flagLayers assigned)).at?
          key.2.names =
        ((defaultLayer :: (lowerLayers file environment ++ flagLayers assigned)).filterMap
          (Setting.at? key.2.names)).getLast? := by
    intro key known
    refine Setting.at?_stack (fun setting found => ?_) (ne_nil_of_mem_leafKeys known)
      (fun layer member => ⟨(tidyFile layer member).1, openFile key known layer member⟩)
      (settlesVariables key known) (settlesFlags key known)
    rcases defaultLayer_cases known with nothing | ⟨there, _, here, leaf, _⟩
    · rw [nothing] at found
      cases found
    · exact Option.some.inj (here.symm.trans found) ▸ leaf
  have wellTyped : ∀ key ∈ leafKeys,
      ∀ layer ∈ defaultLayer :: (lowerLayers file environment ++ flagLayers assigned),
        key.2.WellTyped layer := by
    intro key known
    refine List.forall_mem_cons.mpr ⟨fits_defaultLayer.wellTyped key known,
      List.forall_mem_append.mpr ⟨fun layer member => (fits layer member).wellTyped key known,
        fun layer member => (settles_of_mem_flagLayers made member known).2⟩⟩
  refine ⟨⟨fun key known => ?_, fun key known setting found => ?_⟩, fun key known => ?_⟩
  · obtain ⟨tidy, group⟩ := tidy_defaultLayer
    exact Setting.isOpen_stack (fits_defaultLayer.isOpen tidy group known) (openFile key known)
      (fun layer member => (settlesVariables key known layer member).isOpen)
      (fun layer member => (settlesFlags key known layer member).isOpen)
  · rw [last key known] at found
    obtain ⟨layer, member, here⟩ := List.mem_filterMap.mp (List.mem_of_getLast? found)
    exact wellTyped key known layer member setting here
  · rw [LeafKey.said?_eq_given? (wellTyped ⟨_, key⟩ known) (last ⟨_, key⟩ known),
      ← List.singleton_append, LeafKey.given?_append, LeafKey.given?_append,
      LeafKey.given?_singleton]

/-- A stack says of a configuration what the flags and the layers say, key by key. -/
theorem said_stack (made : assignments arguments cwd = .ok assigned)
    (tidyFile : ∀ layer ∈ file.toList, layer.Tidy (fun _ => True) ∧ layer.IsGroup)
    (fits : ∀ layer ∈ lowerLayers file environment, Fits layer) :
    said (.stack defaultLayer file (variableLayers environment) (flagLayers assigned)) =
      configured arguments cwd (lowerLayers file environment) := by
  obtain ⟨-, heard⟩ := legible_stack made tidyFile fits
  obtain ⟨entries, outDir, rootDir, globalName, enabled, tsc⟩ := given?_flagLayers made
  obtain ⟨cwd', loadFilter, target, module', declarationMap, stripInternal, timeoutSecs⟩ :=
    given?_flagLayers_eq_none made
  -- A field is what the flag says, else what the layers say, and else the default either way.
  have field : ∀ {α : Type} (key : LeafKey α), ⟨α, key⟩ ∈ leafKeys → ∀ {flag : Option α},
      key.given? (flagLayers assigned) = flag → ∀ usual : α,
        (key.said? defaultLayer).getD usual = usual →
        (key.said? (.stack defaultLayer file (variableLayers environment)
          (flagLayers assigned))).getD usual =
          (flag.or (key.given? (lowerLayers file environment))).getD usual := by
    intro α key known flag flagged usual same
    rw [heard key known, flagged, Option.getD_or, same]
  have nameless : globalNameKey.said? defaultLayer = none := rfl
  rw [said, saidDeclarations, configured,
    field entryPointsKey (by simp [leafKeys]) entries Configuration.default.entryPoints rfl,
    field cwdKey (by simp [leafKeys]) cwd' Configuration.default.cwd rfl,
    field rootDirKey (by simp [leafKeys]) rootDir Configuration.default.rootDir rfl,
    field outDirKey (by simp [leafKeys]) outDir Configuration.default.outDir rfl,
    field loadFilterKey (by simp [leafKeys]) loadFilter Configuration.default.loadFilter rfl,
    field enabledKey (by simp [leafKeys]) enabled DeclarationConfiguration.default.enabled rfl,
    field targetKey (by simp [leafKeys]) target DeclarationConfiguration.default.target rfl,
    field moduleKey (by simp [leafKeys]) module' DeclarationConfiguration.default.module rfl,
    field declarationMapKey (by simp [leafKeys]) declarationMap
      DeclarationConfiguration.default.declarationMap rfl,
    field stripInternalKey (by simp [leafKeys]) stripInternal
      DeclarationConfiguration.default.stripInternal rfl,
    field tscKey (by simp [leafKeys]) tsc DeclarationConfiguration.default.tsc rfl,
    field timeoutSecsKey (by simp [leafKeys]) timeoutSecs
      DeclarationConfiguration.default.timeoutSecs rfl,
    heard globalNameKey (by simp [leafKeys]), globalName, nameless, Option.or_none]
  rfl

/-- A stack has a group for a global name if a layer or a flag puts something there. -/
theorem at?_umd_stack_eq_none_iff (made : assignments arguments cwd = .ok assigned)
    (tidyFile : ∀ layer ∈ file.toList, layer.Tidy (fun _ => True) ∧ layer.IsGroup)
    (silent : arguments.globalName = none) :
    (Setting.stack defaultLayer file (variableLayers environment) (flagLayers assigned)).at?
        ["umd"] = none ↔
      ∀ layer ∈ lowerLayers file environment, layer.at? ["umd"] = none := by
  have isOpen : ∀ {leaves : Value → Prop} {layer : Setting},
      layer.Tidy leaves ∧ layer.IsGroup → layer.IsOpen ["umd"] :=
    fun shape => shape.1.isOpen_singleton shape.2 "umd"
  have openFlags : ∀ layer ∈ flagLayers assigned, layer.IsOpen ["umd"] := fun layer member =>
    isOpen (tidy_of_mem_flagLayers made layer member)
  rw [Setting.at?_stack_eq_none_iff (List.cons_ne_nil _ _)
    (fun layer member => isOpen (tidyFile layer member))
    (fun layer member => isOpen (tidy_of_mem_variableLayers member)) openFlags,
    List.forall_mem_append]
  exact ⟨fun absent => absent.2.1,
    fun absent => ⟨rfl, absent, at?_umd_of_mem_flagLayers made silent⟩⟩

/-- **Which layer a configuration is from.** For every command line, settings file and environment
whose layers fit: where the paths of the flags are text, the layers are merged; a configuration
taken out of them has at each leaf key what a flag says, else what the last variable says that says
anything, else what the file says, else the default; and none is taken out of them only where there
is a group for a global name with no name in it. What is put in at a key apart from another, into a
layer or as one more layer, does not change what the layers say of the other. -/
theorem ofSettings_layers (read : fileLayer workspace (configPath arguments cwd) = .ok file)
    (fits : ∀ layer ∈ lowerLayers file workspace.environment, Fits layer) :
    ((∀ path ∈ flagPaths arguments cwd, (Utf8.decode? path.octets).isSome = true) →
      ∃ settings, layers arguments cwd workspace = .ok settings) ∧
    (∀ settings, layers arguments cwd workspace = .ok settings →
      ((arguments.globalName.or
            (globalNameKey.given? (lowerLayers file workspace.environment))).isSome ∨
          (∀ layer ∈ lowerLayers file workspace.environment, layer.at? ["umd"] = none) →
        ofSettings settings =
          .ok (configured arguments cwd (lowerLayers file workspace.environment))) ∧
      (arguments.globalName.or
            (globalNameKey.given? (lowerLayers file workspace.environment)) = none →
        ∀ layer ∈ lowerLayers file workspace.environment, layer.at? ["umd"] ≠ none →
          ∃ origin, ofSettings settings =
            .error ⟨.missingField "global_name", ["umd"], some origin⟩)) ∧
    ∀ {α : Type} (key : LeafKey α) (names : List String), Apart key.names names →
      ∀ (front : List Setting) (layer : Setting) (back : List Setting) (origin : Origin)
        (value : Value),
        key.given? (front ++ layer.merge (.nest origin names value) :: back) =
            key.given? (front ++ layer :: back) ∧
          key.given? (front ++ .nest origin names value :: back) = key.given? (front ++ back) := by
  refine ⟨fun texts => ?_, fun settings merged => ?_, ?_⟩
  · obtain ⟨assigned, made⟩ := exists_assignments texts
    exact ⟨_, layers_eq_stack read made⟩
  · obtain ⟨assigned, made, rfl⟩ := exists_stack read merged
    have tidyFile : ∀ layer ∈ file.toList, layer.Tidy (fun _ => True) ∧ layer.IsGroup := by
      intro layer member
      exact tidy_fileLayer (read.trans (congrArg Except.ok (Option.mem_toList.mp member)))
    obtain ⟨legible, heard⟩ := legible_stack made tidyFile fits
    have named := heard globalNameKey (by simp [leafKeys])
    obtain ⟨-, -, -, globalName, -, -⟩ := given?_flagLayers made
    rw [globalName, show globalNameKey.said? defaultLayer = none from rfl, Option.or_none] at named
    refine ⟨fun complete => ?_, fun nameless layer member there => ?_⟩
    · rw [← said_stack made tidyFile fits]
      refine legible.ofSettings_eq_ok fun group there => ?_
      rw [named]
      rcases complete with given | absent
      · exact Option.isSome_iff_exists.mp given
      · cases silent : arguments.globalName with
        | some name => exact ⟨name, rfl⟩
        | none =>
          rw [(at?_umd_stack_eq_none_iff made tidyFile silent).mpr absent] at there
          cases there
    · have silent : arguments.globalName = none := (Option.or_eq_none_iff.mp nameless).1
      have present := (at?_umd_stack_eq_none_iff made tidyFile silent).not.mpr
        fun absent => there (absent layer member)
      obtain ⟨group, found⟩ := Option.ne_none_iff_exists'.mp present
      exact ⟨group.origin, legible.ofSettings_eq_error found (named.trans nameless)⟩
  · intro α key names apart front layer back origin value
    constructor
    · refine LeafKey.given?_congr ?_ front back
      rw [LeafKey.said?, LeafKey.said?, Setting.at?_merge_nest_of_apart apart]
    · refine LeafKey.given?_cons_of_silent ?_ front back
      rw [LeafKey.said?, Setting.at?_nest_of_apart apart, Option.bind_none]

/-- A directory with a settings file, and two variables. -/
def layeredWorkspace : Workspace :=
  .start
    (.ofNodes [([Utf8.encode "fob-postbuild.json"],
      .file (Utf8.encode ("\x7b\"entry_points\": [\"a.ts\", \"b.ts\"], \"out_dir\": \"file\", " ++
        "\"dts\": \x7b\"target\": \"es2017\", \"declaration_map\": true\x7d, " ++
        "\"umd\": \x7b\"global_name\": \"Lib\"\x7d\x7d")) none)])
    [] [("FOB_POSTBUILD_DTS__TARGET", "es2018"), ("FOB_POSTBUILD_OUT_DIR", "variable")] none

/-- A command line with an entry point and an output directory. -/
def layeredArguments : Arguments :=
  { Arguments.empty with entries := [.ofString "c.ts"], outDir := some (.ofString "flag") }

/-- What that comes to: the entry points and the output directory of the flags, the language version
of the variable, the other keys of the file, and the defaults. -/
def layeredConfiguration : Configuration :=
  { Configuration.default with
    entryPoints := [.ofString "c.ts"]
    outDir := .ofString "flag"
    declarations := { DeclarationConfiguration.default with
      target := .es2018, declarationMap := true }
    umd := some { globalName := "Lib" } }

/-- In that directory all layers fit, and every key has its highest layer. -/
theorem ofSettings_layers_sample :
    ∃ file settings,
      fileLayer layeredWorkspace (configPath layeredArguments .root) = .ok (some file) ∧
      layers layeredArguments .root layeredWorkspace = .ok settings ∧
      (∀ layer ∈ lowerLayers (some file) layeredWorkspace.environment, Fits layer) ∧
      ofSettings settings = .ok layeredConfiguration := by
  have checked : (fileLayer layeredWorkspace (configPath layeredArguments .root)).toOption.join.any
      (fun file =>
        decide (∀ layer ∈ lowerLayers (some file) layeredWorkspace.environment, Fits layer) &&
          decide (configured layeredArguments .root
            (lowerLayers (some file) layeredWorkspace.environment) = layeredConfiguration)) =
        true := by
    decide +kernel
  rcases read : fileLayer layeredWorkspace (configPath layeredArguments .root) with
    failure | _ | file
  · rw [read] at checked
    cases checked
  · rw [read] at checked
    cases checked
  · rw [read] at checked
    obtain ⟨fitting, same⟩ := Bool.and_eq_true_iff.mp checked
    have fits := of_decide_eq_true fitting
    have expected := of_decide_eq_true same
    obtain ⟨globalName, given, -⟩ := Option.map_eq_some_iff.mp (congrArg Configuration.umd expected)
    obtain ⟨works, taken, -⟩ := ofSettings_layers read fits
    obtain ⟨settings, merged⟩ := works (by decide +kernel)
    have complete := Option.isSome_iff_exists.mpr ⟨globalName, given⟩
    exact ⟨file, settings, rfl, merged, fits, expected ▸ (taken settings merged).1 (.inl complete)⟩

end CommandLine

end BundleFinish
