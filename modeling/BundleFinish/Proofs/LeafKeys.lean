import BundleFinish.CommandLine.Layers
import BundleFinish.Proofs.Encoding
import BundleFinish.Proofs.Records
import Mathlib.Data.List.Induction
import Mathlib.Data.List.Pairwise

/-! # The keys of a configuration

The leaf keys of a configuration are those that hold a value and no group. A layer that fits has
groups where a configuration has groups, and at each leaf key nothing or a value of its form. So
have the defaults (`Configuration.fits_defaultLayer`). A variable that fits and a flag moreover
settle every leaf key, that is, what they hold there hides what is below them
(`Settings.settles_of_mem_variableLayers`, `CommandLine.settles_of_mem_flagLayers`). -/

namespace BundleFinish

open Settings

/-! ## What layers say of a key -/

/-- A key that holds a value and no group, and the form of the value. -/
structure LeafKey (α : Type) where
  names : List String
  schema : Schema α
  isPlain : schema.IsPlain

namespace LeafKey

variable {α : Type} (key : LeafKey α)

/-- What a layer says of the key, if anything. -/
def said? (layer : Setting) : Option α :=
  (layer.at? key.names).bind fun setting => (key.schema.extract key.names setting).toOption

/-- What the last of some layers says of the key that says anything. -/
def given? (layers : List Setting) : Option α := (layers.filterMap key.said?).getLast?

/-- What a layer holds at the key, if anything, is a value of its form. -/
def WellTyped (layer : Setting) : Prop :=
  ∀ setting, layer.at? key.names = some setting →
    ∃ value, key.schema.extract key.names setting = .ok value

instance (layer : Setting) : Decidable (key.WellTyped layer) :=
  decidable_of_iff (∀ setting ∈ layer.at? key.names,
      (key.schema.extract key.names setting).isOk = true)
    ⟨fun typed setting found => isOk_iff_exists.mp (typed setting found),
      fun typed setting found => isOk_iff_exists.mpr (typed setting found)⟩

/-- Of two groups of layers, the later one is asked first. -/
theorem given?_append (front back : List Setting) :
    key.given? (front ++ back) = (key.given? back).or (key.given? front) := by
  rw [given?, List.filterMap_append, List.getLast?_append]
  rfl

/-- One layer is asked alone. -/
theorem given?_singleton (layer : Setting) : key.given? [layer] = key.said? layer := by
  rw [given?, List.filterMap_cons]
  cases key.said? layer <;> rfl

variable {key}

/-- Layers say the same if one of them is changed in a way that the key does not show. -/
theorem given?_congr {layer other : Setting} (same : key.said? layer = key.said? other)
    (front back : List Setting) :
    key.given? (front ++ layer :: back) = key.given? (front ++ other :: back) := by
  rw [given?, given?, List.filterMap_append, List.filterMap_append, List.filterMap_cons,
    List.filterMap_cons, same]

/-- A layer that says nothing can be left out. -/
theorem given?_cons_of_silent {layer : Setting} (silent : key.said? layer = none)
    (front back : List Setting) :
    key.given? (front ++ layer :: back) = key.given? (front ++ back) := by
  rw [given?, given?, List.filterMap_append, List.filterMap_append, List.filterMap_cons_none silent]

/-- Layers that hold nothing at the key say nothing of it. -/
theorem given?_eq_none {layers : List Setting}
    (silent : ∀ layer ∈ layers, layer.at? key.names = none) : key.given? layers = none := by
  have nothing : layers.filterMap key.said? = [] :=
    List.filterMap_eq_nil_iff.mpr fun layer member => by
      rw [said?, silent layer member, Option.bind_none]
  rw [given?, nothing, List.getLast?_nil]

/-- Settings that hold at the key what the last of well-typed layers holds there say of it what the
layers say. -/
theorem said?_eq_given? {layers : List Setting} (wellTyped : ∀ layer ∈ layers, key.WellTyped layer)
    {settings : Setting}
    (last : settings.at? key.names = (layers.filterMap (Setting.at? key.names)).getLast?) :
    key.said? settings = key.given? layers := by
  rw [said?, last]
  -- By induction from the last layer, which is asked first.
  clear last
  induction layers using List.reverseRecOn with
  | nil => rfl
  | append_singleton front layer ih =>
    have wellTypedFront := fun layer member => wellTyped layer (List.mem_append_left _ member)
    have wellTypedLayer := wellTyped layer (List.mem_append_right _ List.mem_cons_self)
    rw [given?_append, given?_singleton, List.filterMap_append, List.getLast?_append, said?]
    cases here : layer.at? key.names with
    | none =>
      rw [List.filterMap_cons_none here, Option.bind_none, Option.none_or]
      exact ih wellTypedFront
    | some setting =>
      obtain ⟨value, taken⟩ := wellTypedLayer setting here
      rw [List.filterMap_cons_some here, Option.bind_some, taken]
      show (key.schema.extract key.names setting).toOption = some value
      rw [taken]
      rfl

end LeafKey

/-! ## The keys of a configuration -/

namespace Configuration

def entryPointsKey : LeafKey (List Path) := ⟨["entry_points"], .list .path, .list _⟩

def cwdKey : LeafKey (Option Path) := ⟨["cwd"], .optional .path, .optional .path⟩

def rootDirKey : LeafKey Path := ⟨["root_dir"], .path, .path⟩

def outDirKey : LeafKey Path := ⟨["out_dir"], .path, .path⟩

def loadFilterKey : LeafKey String := ⟨["load_filter"], .text "a string", .text _⟩

def enabledKey : LeafKey Bool := ⟨["dts", "enabled"], .bool, .bool⟩

def targetKey : LeafKey Declarations.Target :=
  ⟨["dts", "target"],
    .variant "EsTarget" Declarations.Target.known Declarations.Target.name, .variant _ _ _⟩

def moduleKey : LeafKey Declarations.ModuleKind :=
  ⟨["dts", "module"],
    .variant "ModuleKind" Declarations.ModuleKind.known Declarations.ModuleKind.name,
    .variant _ _ _⟩

def declarationMapKey : LeafKey Bool := ⟨["dts", "declaration_map"], .bool, .bool⟩

def stripInternalKey : LeafKey Bool := ⟨["dts", "strip_internal"], .bool, .bool⟩

def tscKey : LeafKey (Option Path) := ⟨["dts", "tsc"], .optional .path, .optional .path⟩

def timeoutSecsKey : LeafKey Nat :=
  ⟨["dts", "timeout_secs"], .natural maxTimeoutSecs "u64", .natural _ _⟩

def globalNameKey : LeafKey String := ⟨["umd", "global_name"], .text "a string", .text _⟩

/-- All keys that hold a value and no group. -/
def leafKeys : List (Σ α : Type, LeafKey α) :=
  [⟨_, entryPointsKey⟩, ⟨_, cwdKey⟩, ⟨_, rootDirKey⟩, ⟨_, outDirKey⟩, ⟨_, loadFilterKey⟩,
    ⟨_, enabledKey⟩, ⟨_, targetKey⟩, ⟨_, moduleKey⟩, ⟨_, declarationMapKey⟩,
    ⟨_, stripInternalKey⟩, ⟨_, tscKey⟩, ⟨_, timeoutSecsKey⟩, ⟨_, globalNameKey⟩]

/-- The names of the groups of a configuration. -/
def groupNames : List String := ["dts", "umd"]

/-- A layer has groups where a configuration has groups, and values of the right form where it has
values. Whatever is at other keys does not matter. -/
structure Fits (layer : Setting) : Prop where
  isGroup : ∀ name ∈ groupNames, ∀ setting, layer.at? [name] = some setting → setting.IsGroup
  wellTyped : ∀ key ∈ leafKeys, key.2.WellTyped layer

instance (layer : Setting) : Decidable (Fits layer) :=
  decidable_of_iff ((∀ name ∈ groupNames, ∀ setting ∈ layer.at? [name], setting.IsGroup) ∧
      ∀ key ∈ leafKeys, key.2.WellTyped layer)
    ⟨fun fits => ⟨fits.1, fits.2⟩, fun fits => ⟨fits.isGroup, fits.wellTyped⟩⟩

/-! ## Layers that fit -/

/-- A leaf key is a single name, or a name in a group. -/
theorem shape_of_mem_leafKeys {key : Σ α : Type, LeafKey α} (member : key ∈ leafKeys) :
    (∃ name, key.2.names = [name]) ∨
      ∃ group ∈ groupNames, ∃ name, key.2.names = [group, name] := by
  simp only [leafKeys, List.mem_cons, List.not_mem_nil, or_false] at member
  rcases member with rfl | rfl | rfl | rfl | rfl | rfl | rfl | rfl | rfl | rfl | rfl | rfl | rfl
  all_goals
    first
    | exact .inl ⟨_, rfl⟩
    | exact .inr ⟨_, by decide, _, rfl⟩

/-- Two leaf keys are the same, or apart. -/
theorem apart_of_ne {key other : Σ α : Type, LeafKey α} (member : key ∈ leafKeys)
    (known : other ∈ leafKeys) (differ : key ≠ other) : Apart key.2.names other.2.names := by
  -- Which keys are apart is decided on their names; the schemas need no equality for it.
  have pairwise : (leafKeys.map fun key => key.2.names).Pairwise Apart := by decide
  have symmetric : Std.Symm fun key other : Σ α : Type, LeafKey α =>
      Apart key.2.names other.2.names := ⟨fun _ _ apart => apart.symm⟩
  exact (List.pairwise_map.mp pairwise).forall member known differ

/-- No leaf key is empty. -/
theorem ne_nil_of_mem_leafKeys {key : Σ α : Type, LeafKey α} (member : key ∈ leafKeys) :
    key.2.names ≠ [] := by
  rcases shape_of_mem_leafKeys member with ⟨name, shape⟩ | ⟨group, _, name, shape⟩
  all_goals
    rw [shape]
    exact List.cons_ne_nil _ _

/-- A tidy group that fits is open on the way to every leaf key. -/
theorem Fits.isOpen {leaves : Value → Prop} {layer : Setting} (fits : Fits layer)
    (tidy : layer.Tidy leaves) (group : layer.IsGroup) {key : Σ α : Type, LeafKey α}
    (member : key ∈ leafKeys) : layer.IsOpen key.2.names := by
  rcases shape_of_mem_leafKeys member with ⟨name, shape⟩ | ⟨outer, known, name, shape⟩
  · rw [shape]
    exact tidy.isOpen_singleton group name
  · rw [shape]
    exact tidy.isOpen_pair group (fits.isGroup outer known) name

/-- The defaults hold nothing at a leaf key, or a value of its form. -/
theorem defaultLayer_cases {key : Σ α : Type, LeafKey α} (member : key ∈ leafKeys) :
    defaultLayer.at? key.2.names = none ∨
      ∃ setting value, defaultLayer.at? key.2.names = some setting ∧ setting.IsLeaf ∧
        key.2.schema.extract key.2.names setting = .ok value := by
  simp only [leafKeys, List.mem_cons, List.not_mem_nil, or_false] at member
  rcases member with rfl | rfl | rfl | rfl | rfl | rfl | rfl | rfl | rfl | rfl | rfl | rfl | rfl
  all_goals
    first
    | exact .inl rfl
    | exact .inr ⟨_, _, rfl, ⟨_, _, rfl⟩, rfl⟩

/-- The defaults fit. -/
theorem fits_defaultLayer : Fits defaultLayer where
  isGroup := by
    intro name known setting found
    simp only [groupNames, List.mem_cons, List.not_mem_nil, or_false] at known
    rcases known with rfl | rfl
    · exact ⟨_, _, (Option.some.inj found).symm⟩
    · cases found
  wellTyped := by
    intro key member setting found
    rcases defaultLayer_cases member with nothing | ⟨there, value, here, _, taken⟩
    · rw [nothing] at found
      cases found
    · obtain rfl : there = setting := Option.some.inj (here.symm.trans found)
      exact ⟨value, taken⟩

/-- The defaults are a tidy group. -/
theorem tidy_defaultLayer : defaultLayer.Tidy (fun _ => True) ∧ defaultLayer.IsGroup :=
  ⟨schema.tidy_toValue default .defaults, _, _, rfl⟩

end Configuration

/-! ## Variables -/

namespace Settings

/-- The layers of variables, one for each that names a key. -/
def variableLayers (environment : List (String × String)) : List Setting :=
  environment.filterMap fun (name, text) =>
    (keyOfName? name).map fun key => .nest .environment key (valueOfText text)

/-- The settings of variables are merged from their layers. -/
theorem ofVariables_eq (environment : List (String × String)) :
    ofVariables environment =
      (variableLayers environment).foldl .merge (.group .environment []) := by
  rw [ofVariables, Setting.ofAssignments_eq, List.map_filterMap, variableLayers]
  simp only [Option.map_map, Function.comp_def]

/-- The layer of a variable is a group, and holds no nothing. -/
theorem tidy_of_mem_variableLayers {environment : List (String × String)} {layer : Setting}
    (member : layer ∈ variableLayers environment) :
    layer.Tidy (· ≠ .unit) ∧ layer.IsGroup := by
  obtain ⟨⟨name, text⟩, _, made⟩ := List.mem_filterMap.mp member
  obtain ⟨key, named, rfl⟩ := Option.map_eq_some_iff.mp made
  refine ⟨Setting.tidy_nest (tidy_valueOfText text) key, ?_⟩
  cases key with
  | nil => exact absurd rfl (ne_nil_of_keyOfName? named)
  | cons name names => exact ⟨_, _, rfl⟩

/-- The layer of a variable that fits settles every leaf key. -/
theorem settles_of_mem_variableLayers {environment : List (String × String)} {layer : Setting}
    (member : layer ∈ variableLayers environment) (fits : Configuration.Fits layer)
    {key : Σ α : Type, LeafKey α} (known : key ∈ Configuration.leafKeys) :
    layer.Settles key.2.names := by
  obtain ⟨tidy, group⟩ := tidy_of_mem_variableLayers member
  refine ⟨fits.isOpen tidy group known, fun setting found => ?_⟩
  obtain ⟨value, taken⟩ := fits.wellTyped key known setting found
  exact key.2.isPlain.isLeaf (tidy.of_at? found) taken

end Settings

/-! ## Flags -/

namespace CommandLine

open BundleFinish.Configuration

variable {arguments : Arguments} {cwd : Path}

/-- The layers of what flags assign, one for each assignment. -/
def flagLayers (assigned : List (List String × Value)) : List Setting :=
  assigned.map fun assignment => .nest .flags assignment.1 assignment.2

/-- The entry points that are given, if any are. -/
def entriesFlag (arguments : Arguments) : Option (List Path) :=
  if arguments.entries = [] then none else some arguments.entries

/-- What is said of declarations being emitted: only that they are not. -/
def enabledFlag (arguments : Arguments) : Option Bool :=
  if arguments.noDeclarations then some false else none

/-- The compiler that is given, below the working directory of the command line. -/
def tscFlag (arguments : Arguments) (cwd : Path) : Option (Option Path) :=
  arguments.tsc.map fun path => some (cwd.join path)

/-- A path is shown as a text that is read as the path. -/
theorem exists_of_pathValue {path : Path} {shown : Value} (made : pathValue path = .ok shown) :
    ∃ text, shown = .text text ∧ Path.ofString text = path := by
  unfold pathValue at made
  split at made
  case h_1 text decoded =>
    refine ⟨text, (Except.ok.inj made).symm, ?_⟩
    rw [Path.ofString, ← Utf8.decode?_eq_some_iff.mp decoded]
  case h_2 => cases made

/-- Paths that are shown as values are read as themselves. -/
theorem items_mapM_pathValue {paths : List Path} {shown : List Value}
    (made : paths.mapM pathValue = .ok shown) (key : List String) (number : Nat) :
    Extract.items Schema.path.extract .flags key number shown = .ok paths := by
  induction paths generalizing shown number with
  | nil =>
    obtain rfl : [] = shown := Except.ok.inj made
    rfl
  | cons path paths ih =>
    rw [List.mapM_cons] at made
    obtain ⟨first, madeFirst, onwards⟩ := exists_of_bind_eq_ok made
    obtain ⟨others, madeOthers, whole⟩ := exists_of_bind_eq_ok onwards
    obtain rfl : first :: others = shown := Except.ok.inj whole
    obtain ⟨text, rfl, rfl⟩ := exists_of_pathValue madeFirst
    rw [Extract.items, ih madeOthers]
    rfl

/-- What a flag assigns: nothing, or to a key a value that is read as what the flag says. -/
inductive Heard {α : Type} (key : LeafKey α) : Option α → List (List String × Value) → Prop
  | silent : Heard key none []
  | said {value : α} {shown : Value} (plain : ∀ entries, shown ≠ .map entries)
      (decodes : key.schema.extract key.names (.ofValue .flags shown) = .ok value) :
      Heard key (some value) [(key.names, shown)]

namespace Heard

variable {α β : Type} {key : LeafKey α} {typed : Option α} {part : List (List String × Value)}

/-- A flag is heard if its values are read as themselves. -/
theorem of_assignment {encode : α → Except Failure Value}
    (made : assignment key.names (typed.map encode) = .ok part)
    (decodes : ∀ value shown, encode value = .ok shown → (∀ entries, shown ≠ .map entries) ∧
      key.schema.extract key.names (.ofValue .flags shown) = .ok value) : Heard key typed part := by
  cases typed with
  | none =>
    obtain rfl : [] = part := Except.ok.inj made
    exact .silent
  | some value =>
    rw [Option.map_some] at made
    cases encoded : encode value with
    | error failure =>
      rw [encoded] at made
      cases made
    | ok shown =>
      rw [encoded] at made
      obtain rfl : [(key.names, shown)] = part := Except.ok.inj made
      exact .said (decodes value shown encoded).1 (decodes value shown encoded).2

/-- A flag says its value of its key. -/
theorem given?_eq (heard : Heard key typed part) : key.given? (flagLayers part) = typed := by
  cases heard with
  | silent => rfl
  | @said value shown plain decodes =>
    show key.given? [.nest .flags key.names shown] = _
    rw [LeafKey.given?_singleton, LeafKey.said?, Setting.at?_nest, Option.bind_some, decodes]
    rfl

/-- A flag assigns nothing to a key apart from its own. -/
theorem at?_eq_none (heard : Heard key typed part) {names : List String}
    (apart : Apart names key.names) : ∀ layer ∈ flagLayers part, layer.at? names = none := by
  cases heard with
  | silent => exact nofun
  | said => exact List.forall_mem_singleton.mpr (Setting.at?_nest_of_apart apart _)

/-- A flag says nothing of a key apart from its own. -/
theorem given?_eq_none (heard : Heard key typed part) {other : LeafKey β}
    (apart : Apart other.names key.names) : other.given? (flagLayers part) = none :=
  LeafKey.given?_eq_none (heard.at?_eq_none apart)

/-- What a flag assigns to a key that is not empty is a tidy group. -/
theorem tidy (heard : Heard key typed part) (nonempty : key.names ≠ []) :
    ∀ layer ∈ flagLayers part, layer.Tidy (fun _ => True) ∧ layer.IsGroup := by
  cases heard with
  | silent => exact nofun
  | said plain =>
    refine List.forall_mem_singleton.mpr
      ⟨Setting.tidy_nest (Value.tidy_of_ne_map plain trivial) key.names, ?_⟩
    show (Setting.nest .flags key.names _).IsGroup
    cases shape : key.names with
    | nil => exact absurd shape nonempty
    | cons name names => exact ⟨_, _, rfl⟩

/-- A flag that says nothing assigns nothing. -/
theorem eq_nil (heard : Heard key none part) : part = [] := by
  cases heard
  rfl

/-- What a flag assigns to a leaf key settles every leaf key, and with a value of its form. -/
theorem settles (heard : Heard key typed part) (member : ⟨α, key⟩ ∈ leafKeys)
    {layer : Setting} (inside : layer ∈ flagLayers part) {other : Σ α : Type, LeafKey α}
    (known : other ∈ leafKeys) : layer.Settles other.2.names ∧ other.2.WellTyped layer := by
  cases heard with
  | silent => cases inside
  | @said value shown plain decodes =>
    obtain rfl : layer = .nest .flags key.names shown := List.mem_singleton.mp inside
    by_cases same : other = ⟨α, key⟩
    · subst same
      refine ⟨Setting.settles_nest key.names plain, fun setting found => ⟨value, ?_⟩⟩
      rw [Setting.at?_nest] at found
      rwa [← Option.some.inj found]
    · have apart := apart_of_ne known member same
      refine ⟨Setting.settles_nest_of_apart apart shown, fun setting found => ?_⟩
      rw [Setting.at?_nest_of_apart apart] at found
      cases found

end Heard

/-- The layers of flags, part by part. -/
theorem flagLayers_append (front back : List (List String × Value)) :
    flagLayers (front ++ back) = flagLayers front ++ flagLayers back :=
  List.map_append

/-- What flags assign, by what they say. -/
theorem assignments_eq (arguments : Arguments) (cwd : Path) :
    assignments arguments cwd = (do
      return (← assignment entryPointsKey.names ((entriesFlag arguments).map fun paths =>
          (paths.mapM pathValue).map Value.list))
        ++ (← assignment outDirKey.names (arguments.outDir.map pathValue))
        ++ (← assignment rootDirKey.names (arguments.rootDir.map pathValue))
        ++ (← assignment globalNameKey.names (arguments.globalName.map fun name =>
          .ok (.text name)))
        ++ (← assignment enabledKey.names ((enabledFlag arguments).map fun enabled =>
          .ok (.bool enabled)))
        ++ (← assignment tscKey.names ((tscFlag arguments cwd).map fun path =>
          path.elim (.ok .unit) pathValue))) := by
  -- Three flags are written in another form than as an optional value that is encoded.
  have entries : (if arguments.entries = [] then none
      else some ((arguments.entries.mapM pathValue).map Value.list)) =
        (entriesFlag arguments).map fun paths => (paths.mapM pathValue).map Value.list := by
    rw [entriesFlag]
    split <;> rfl
  have enabled : (if arguments.noDeclarations then some (.ok (.bool false)) else none) =
      (enabledFlag arguments).map fun enabled => (.ok (.bool enabled) : Except Failure Value) := by
    rw [enabledFlag]
    split <;> rfl
  have tsc : (arguments.tsc.map fun path => pathValue (cwd.join path)) =
      (tscFlag arguments cwd).map fun path => path.elim (.ok .unit) pathValue := by
    rw [tscFlag, Option.map_map]
    rfl
  rw [← entries, ← enabled, ← tsc]
  rfl

/-- What flags assign, one part for each of them. -/
theorem exists_parts {assigned : List (List String × Value)}
    (made : assignments arguments cwd = .ok assigned) :
    ∃ entries outDir rootDir globalName enabled tsc,
      Heard entryPointsKey (entriesFlag arguments) entries ∧
      Heard outDirKey arguments.outDir outDir ∧ Heard rootDirKey arguments.rootDir rootDir ∧
      Heard globalNameKey arguments.globalName globalName ∧
      Heard enabledKey (enabledFlag arguments) enabled ∧
      Heard tscKey (tscFlag arguments cwd) tsc ∧
      assigned = entries ++ outDir ++ rootDir ++ globalName ++ enabled ++ tsc := by
  rw [assignments_eq] at made
  obtain ⟨entries, madeEntries, onwards⟩ := exists_of_bind_eq_ok made
  obtain ⟨outDir, madeOutDir, onwards⟩ := exists_of_bind_eq_ok onwards
  obtain ⟨rootDir, madeRootDir, onwards⟩ := exists_of_bind_eq_ok onwards
  obtain ⟨globalName, madeGlobalName, onwards⟩ := exists_of_bind_eq_ok onwards
  obtain ⟨enabled, madeEnabled, onwards⟩ := exists_of_bind_eq_ok onwards
  obtain ⟨tsc, madeTsc, onwards⟩ := exists_of_bind_eq_ok onwards
  refine ⟨entries, outDir, rootDir, globalName, enabled, tsc, .of_assignment madeEntries ?_,
    .of_assignment madeOutDir ?_, .of_assignment madeRootDir ?_, .of_assignment madeGlobalName ?_,
    .of_assignment madeEnabled ?_, .of_assignment madeTsc ?_, (Except.ok.inj onwards).symm⟩
  case refine_1 =>
    intro paths value encoded
    obtain ⟨items, texts, rfl⟩ := exists_of_map_eq_ok encoded
    exact ⟨by simp, items_mapM_pathValue texts _ 0⟩
  case refine_2 | refine_3 =>
    intro path value encoded
    obtain ⟨text, rfl, rfl⟩ := exists_of_pathValue encoded
    exact ⟨by simp, rfl⟩
  case refine_4 | refine_5 =>
    intro said value encoded
    obtain rfl := Except.ok.inj encoded
    exact ⟨by simp, rfl⟩
  case refine_6 =>
    intro path value encoded
    cases path with
    | none =>
      obtain rfl := Except.ok.inj encoded
      exact ⟨by simp, rfl⟩
    | some path =>
      obtain ⟨text, rfl, rfl⟩ := exists_of_pathValue encoded
      exact ⟨by simp, rfl⟩

/-- The paths that flags assign. -/
def flagPaths (arguments : Arguments) (cwd : Path) : List Path :=
  arguments.entries ++ arguments.outDir.toList ++ arguments.rootDir.toList ++
    (arguments.tsc.map cwd.join).toList

/-- A path that is text has a value. -/
theorem exists_pathValue {path : Path} (text : (Utf8.decode? path.octets).isSome = true) :
    ∃ shown, pathValue path = .ok shown := by
  obtain ⟨text, decoded⟩ := Option.isSome_iff_exists.mp text
  exact ⟨.text text, by rw [pathValue, decoded]⟩

/-- Paths that are text have values. -/
theorem exists_mapM_pathValue {paths : List Path}
    (texts : ∀ path ∈ paths, (Utf8.decode? path.octets).isSome = true) :
    ∃ shown, paths.mapM pathValue = .ok shown := by
  induction paths with
  | nil => exact ⟨[], rfl⟩
  | cons path paths ih =>
    obtain ⟨textFirst, textOthers⟩ := List.forall_mem_cons.mp texts
    obtain ⟨first, madeFirst⟩ := exists_pathValue textFirst
    obtain ⟨others, madeOthers⟩ := ih textOthers
    exact ⟨first :: others, by rw [List.mapM_cons, madeFirst, madeOthers]; rfl⟩

/-- A flag assigns if its value has a form. -/
theorem exists_assignment {α : Type} (names : List String) (typed : Option α)
    (encode : α → Except Failure Value)
    (encodes : ∀ value, typed = some value → ∃ shown, encode value = .ok shown) :
    ∃ part, assignment names (typed.map encode) = .ok part := by
  cases typed with
  | none => exact ⟨[], rfl⟩
  | some value =>
    obtain ⟨shown, encoded⟩ := encodes value rfl
    exact ⟨[(names, shown)], by rw [Option.map_some, encoded]; rfl⟩

/-- Flags whose paths are text assign. -/
theorem exists_assignments
    (texts : ∀ path ∈ flagPaths arguments cwd, (Utf8.decode? path.octets).isSome = true) :
    ∃ assigned, assignments arguments cwd = .ok assigned := by
  simp only [flagPaths, List.forall_mem_append, Option.mem_toList] at texts
  obtain ⟨⟨⟨entriesText, outDirText⟩, rootDirText⟩, tscText⟩ := texts
  have entriesShown : ∀ paths, entriesFlag arguments = some paths →
      ∃ shown, (paths.mapM pathValue).map Value.list = .ok shown := by
    intro paths given
    unfold entriesFlag at given
    split at given
    · cases given
    · obtain rfl := Option.some.inj given
      obtain ⟨shown, made⟩ := exists_mapM_pathValue entriesText
      exact ⟨.list shown, by rw [made]; rfl⟩
  have tscShown : ∀ path, tscFlag arguments cwd = some path →
      ∃ shown, path.elim (.ok .unit) pathValue = .ok shown := by
    intro path given
    obtain ⟨relative, named, rfl⟩ := Option.map_eq_some_iff.mp given
    exact exists_pathValue (tscText _ (congrArg (Option.map cwd.join) named))
  obtain ⟨entries, madeEntries⟩ := exists_assignment entryPointsKey.names _ _ entriesShown
  obtain ⟨outDir, madeOutDir⟩ := exists_assignment outDirKey.names _ _
    fun path given => exists_pathValue (outDirText path given)
  obtain ⟨rootDir, madeRootDir⟩ := exists_assignment rootDirKey.names _ _
    fun path given => exists_pathValue (rootDirText path given)
  obtain ⟨globalName, madeGlobalName⟩ := exists_assignment globalNameKey.names
    arguments.globalName (fun name => .ok (.text name)) fun name _ => ⟨.text name, rfl⟩
  obtain ⟨enabled, madeEnabled⟩ := exists_assignment enabledKey.names (enabledFlag arguments)
    (fun enabled => .ok (.bool enabled)) fun enabled _ => ⟨.bool enabled, rfl⟩
  obtain ⟨tsc, madeTsc⟩ := exists_assignment tscKey.names _ _ tscShown
  refine ⟨entries ++ outDir ++ rootDir ++ globalName ++ enabled ++ tsc, ?_⟩
  rw [assignments_eq, madeEntries, madeOutDir, madeRootDir, madeGlobalName, madeEnabled, madeTsc]
  rfl

/-- **What flags say**: each is heard at its own key. -/
theorem given?_flagLayers {assigned : List (List String × Value)}
    (made : assignments arguments cwd = .ok assigned) :
    entryPointsKey.given? (flagLayers assigned) = entriesFlag arguments ∧
      outDirKey.given? (flagLayers assigned) = arguments.outDir ∧
      rootDirKey.given? (flagLayers assigned) = arguments.rootDir ∧
      globalNameKey.given? (flagLayers assigned) = arguments.globalName ∧
      enabledKey.given? (flagLayers assigned) = enabledFlag arguments ∧
      tscKey.given? (flagLayers assigned) = tscFlag arguments cwd := by
  obtain ⟨entries, outDir, rootDir, globalName, enabled, tsc, heardEntries, heardOutDir,
    heardRootDir, heardGlobalName, heardEnabled, heardTsc, rfl⟩ := exists_parts made
  simp only [flagLayers_append, LeafKey.given?_append]
  -- Of the six parts, those that are for other keys say nothing.
  simp (disch := decide) only [heardEntries.given?_eq_none, heardOutDir.given?_eq_none,
    heardRootDir.given?_eq_none, heardGlobalName.given?_eq_none, heardEnabled.given?_eq_none,
    heardTsc.given?_eq_none, Option.none_or, Option.or_none]
  exact ⟨heardEntries.given?_eq, heardOutDir.given?_eq, heardRootDir.given?_eq,
    heardGlobalName.given?_eq, heardEnabled.given?_eq, heardTsc.given?_eq⟩

/-- No flag says anything of the other keys. -/
theorem given?_flagLayers_eq_none {assigned : List (List String × Value)}
    (made : assignments arguments cwd = .ok assigned) :
    cwdKey.given? (flagLayers assigned) = none ∧
      loadFilterKey.given? (flagLayers assigned) = none ∧
      targetKey.given? (flagLayers assigned) = none ∧
      moduleKey.given? (flagLayers assigned) = none ∧
      declarationMapKey.given? (flagLayers assigned) = none ∧
      stripInternalKey.given? (flagLayers assigned) = none ∧
      timeoutSecsKey.given? (flagLayers assigned) = none := by
  obtain ⟨entries, outDir, rootDir, globalName, enabled, tsc, heardEntries, heardOutDir,
    heardRootDir, heardGlobalName, heardEnabled, heardTsc, rfl⟩ := exists_parts made
  simp only [flagLayers_append, LeafKey.given?_append]
  simp (disch := decide) only [heardEntries.given?_eq_none, heardOutDir.given?_eq_none,
    heardRootDir.given?_eq_none, heardGlobalName.given?_eq_none, heardEnabled.given?_eq_none,
    heardTsc.given?_eq_none, Option.or_none, and_self]

/-- What flags assign is what a flag is heard to say of a leaf key. -/
theorem exists_heard_of_mem_flagLayers {assigned : List (List String × Value)}
    (made : assignments arguments cwd = .ok assigned) {layer : Setting}
    (member : layer ∈ flagLayers assigned) :
    ∃ key ∈ leafKeys, ∃ typed part, Heard key.2 typed part ∧ layer ∈ flagLayers part := by
  obtain ⟨entries, outDir, rootDir, globalName, enabled, tsc, heardEntries, heardOutDir,
    heardRootDir, heardGlobalName, heardEnabled, heardTsc, rfl⟩ := exists_parts made
  simp only [flagLayers_append, List.mem_append] at member
  rcases member with ((((member | member) | member) | member) | member) | member
  · exact ⟨⟨_, entryPointsKey⟩, by simp [leafKeys], _, _, heardEntries, member⟩
  · exact ⟨⟨_, outDirKey⟩, by simp [leafKeys], _, _, heardOutDir, member⟩
  · exact ⟨⟨_, rootDirKey⟩, by simp [leafKeys], _, _, heardRootDir, member⟩
  · exact ⟨⟨_, globalNameKey⟩, by simp [leafKeys], _, _, heardGlobalName, member⟩
  · exact ⟨⟨_, enabledKey⟩, by simp [leafKeys], _, _, heardEnabled, member⟩
  · exact ⟨⟨_, tscKey⟩, by simp [leafKeys], _, _, heardTsc, member⟩

/-- The layers of flags are tidy groups. -/
theorem tidy_of_mem_flagLayers {assigned : List (List String × Value)}
    (made : assignments arguments cwd = .ok assigned) :
    ∀ layer ∈ flagLayers assigned, layer.Tidy (fun _ => True) ∧ layer.IsGroup := by
  intro layer member
  obtain ⟨key, known, typed, part, heard, inside⟩ := exists_heard_of_mem_flagLayers made member
  exact heard.tidy (ne_nil_of_mem_leafKeys known) layer inside

/-- Without a global name, flags assign nothing about wrapping. -/
theorem at?_umd_of_mem_flagLayers {assigned : List (List String × Value)}
    (made : assignments arguments cwd = .ok assigned) (silent : arguments.globalName = none) :
    ∀ layer ∈ flagLayers assigned, layer.at? ["umd"] = none := by
  obtain ⟨entries, outDir, rootDir, globalName, enabled, tsc, heardEntries, heardOutDir,
    heardRootDir, heardGlobalName, heardEnabled, heardTsc, rfl⟩ := exists_parts made
  rw [silent] at heardGlobalName
  simp only [flagLayers_append, List.forall_mem_append, heardGlobalName.eq_nil]
  exact ⟨⟨⟨⟨⟨heardEntries.at?_eq_none (by decide), heardOutDir.at?_eq_none (by decide)⟩,
    heardRootDir.at?_eq_none (by decide)⟩, nofun⟩, heardEnabled.at?_eq_none (by decide)⟩,
    heardTsc.at?_eq_none (by decide)⟩

/-- The layers of flags settle every leaf key, and with values of its form. -/
theorem settles_of_mem_flagLayers {assigned : List (List String × Value)}
    (made : assignments arguments cwd = .ok assigned) {layer : Setting}
    (member : layer ∈ flagLayers assigned) {key : Σ α : Type, LeafKey α} (known : key ∈ leafKeys) :
    layer.Settles key.2.names ∧ key.2.WellTyped layer := by
  obtain ⟨own, ownKnown, typed, part, heard, inside⟩ := exists_heard_of_mem_flagLayers made member
  exact heard.settles ownKnown inside known

end CommandLine

end BundleFinish
