import BundleFinish.Proofs.TidySettings

/-! # Merged settings, one key at a time

A key leads from group to group to a setting. A layer settles a key if it is open on the way there
and holds nothing there but a value. Where all layers settle a key, merged settings hold there what
the last layer holds that holds anything (`Setting.at?_foldl_merge`). Values are not put together: a
list, for instance, comes from one layer as a whole. -/

namespace BundleFinish.Settings

/-- Two keys of which neither leads to the other. -/
structure Apart (names others : List String) : Prop where
  notBelow : ¬ others <+: names
  notAbove : ¬ names <+: others

namespace Apart

variable {names others : List String} {name : String}

instance : Decidable (Apart names others) :=
  decidable_of_iff (¬ others <+: names ∧ ¬ names <+: others)
    ⟨fun apart => ⟨apart.1, apart.2⟩, fun apart => ⟨apart.notBelow, apart.notAbove⟩⟩

/-- Which of two keys comes first does not matter. -/
theorem symm (apart : Apart names others) : Apart others names := ⟨apart.notAbove, apart.notBelow⟩

/-- Keys that are apart below one name are apart. -/
theorem of_cons (apart : Apart (name :: names) (name :: others)) : Apart names others :=
  ⟨fun below => apart.notBelow (List.cons_prefix_cons.mpr ⟨rfl, below⟩),
    fun above => apart.notAbove (List.cons_prefix_cons.mpr ⟨rfl, above⟩)⟩

end Apart

namespace Setting

variable {leaves : Value → Prop} {origin : Origin}

/-! ## Settings at a key -/

/-- The setting that the names of a key lead to. -/
def at? : List String → Setting → Option Setting
  | [], setting => some setting
  | name :: names, setting => (setting.entries.get? name).bind (at? names)

/-- Whatever is on the way to a key is a group, and a sorted one. -/
def IsOpen : List String → Setting → Prop
  | [], _ => True
  | _ :: _, .leaf .. => False
  | name :: names, .group _ entries =>
    Entries.Sorted entries ∧ ∀ inner, Entries.get? name entries = some inner → IsOpen names inner

/-- Put a later setting, if there is one, over an earlier one. -/
def overlay (below above : Option Setting) : Option Setting :=
  match above with
  | some above => some (mergeOver below above)
  | none => below

@[simp] theorem at?_nil (setting : Setting) : setting.at? [] = some setting := rfl

@[simp] theorem overlay_none (below : Option Setting) : overlay below none = below := rfl

@[simp] theorem overlay_some (below : Option Setting) (above : Setting) :
    overlay below (some above) = some (mergeOver below above) := rfl

@[simp] theorem isOpen_nil (setting : Setting) : setting.IsOpen [] := by
  rw [IsOpen]
  trivial

/-- A key is followed name by name. -/
theorem at?_append (front back : List String) (setting : Setting) :
    setting.at? (front ++ back) = (setting.at? front).bind (at? back) := by
  induction front generalizing setting with
  | nil => rfl
  | cons name front ih =>
    rw [List.cons_append, at?, at?, Option.bind_assoc]
    exact Option.bind_congr fun inner _ => ih inner

/-- What is inside tidy settings is tidy. -/
theorem Tidy.of_at? {names : List String} {setting inner : Setting} (tidy : setting.Tidy leaves)
    (found : setting.at? names = some inner) : inner.Tidy leaves := by
  induction names generalizing setting with
  | nil => exact Option.some.inj found ▸ tidy
  | cons name names ih =>
    obtain ⟨entry, here, later⟩ := Option.bind_eq_some_iff.mp found
    exact ih (tidy.of_mem_entries (Entries.mem_of_get? here)) later

/-- Where the way to a key is open, the first step is to an open setting. -/
theorem IsOpen.of_get? {name : String} {names : List String} {setting inner : Setting}
    (isOpen : setting.IsOpen (name :: names)) (found : setting.entries.get? name = some inner) :
    inner.IsOpen names := by
  cases setting with
  | leaf => cases found
  | group origin entries => exact isOpen.2 inner found

/-- Where the way to a key is open, what is on the way is open. -/
theorem isOpen_of_at? {front back : List String} {setting inner : Setting}
    (found : setting.at? front = some inner) (isOpen : setting.IsOpen (front ++ back)) :
    inner.IsOpen back := by
  induction front generalizing setting with
  | nil => exact Option.some.inj found ▸ isOpen
  | cons name front ih =>
    obtain ⟨entry, here, later⟩ := Option.bind_eq_some_iff.mp found
    exact ih later (isOpen.of_get? here)

/-- Where the way to a key is open, the entries in front of it are sorted. -/
theorem IsOpen.sorted {name : String} {names : List String} {setting : Setting}
    (isOpen : setting.IsOpen (name :: names)) : setting.entries.Sorted := by
  cases setting with
  | leaf => exact List.Pairwise.nil
  | group origin entries => exact isOpen.1

/-- Where the way to a key that is not empty is open, there is a group in front of it. -/
theorem IsOpen.isGroup {name : String} {names : List String} {setting : Setting}
    (isOpen : setting.IsOpen (name :: names)) : setting.IsGroup := by
  cases setting with
  | leaf => cases isOpen
  | group origin entries => exact ⟨origin, entries, rfl⟩

/-- A tidy group is open on the way to a name in it. -/
theorem Tidy.isOpen_singleton {setting : Setting} (tidy : setting.Tidy leaves)
    (group : setting.IsGroup) (name : String) : setting.IsOpen [name] := by
  obtain ⟨origin, entries, rfl⟩ := group
  exact ⟨tidy.sorted_entries, fun inner _ => isOpen_nil inner⟩

/-- A tidy group is open on the way to a name in a group in it. -/
theorem Tidy.isOpen_pair {setting : Setting} (tidy : setting.Tidy leaves) (group : setting.IsGroup)
    {outer : String} (inside : ∀ inner, setting.at? [outer] = some inner → inner.IsGroup)
    (name : String) : setting.IsOpen [outer, name] := by
  obtain ⟨origin, entries, rfl⟩ := group
  refine ⟨tidy.sorted_entries, fun inner found => ?_⟩
  have here : (Setting.group origin entries).at? [outer] = some inner := by
    rw [at?, Setting.entries, found]
    rfl
  exact (tidy.of_at? here).isOpen_singleton (inside inner here) name

/-! ## One layer over another -/

/-- A value hides whatever it is put over. -/
@[simp] theorem mergeOver_leaf (below : Option Setting) (value : Value) :
    mergeOver below (.leaf origin value) = .leaf origin value := by
  rw [mergeOver]

/-- Sorted entries stay sorted when others are put over them. -/
theorem sorted_mergeEntries {below : Entries Setting} (sorted : below.Sorted)
    (above : Entries Setting) : (mergeEntries below above).Sorted := by
  induction above generalizing below with
  | nil => rwa [mergeEntries]
  | cons first rest ih =>
    rw [mergeEntries]
    exact ih (sorted.insert _ _)

/-- Merged entries have at a name what both layers have there, one over the other. -/
theorem get?_mergeEntries {above : Entries Setting} (sorted : above.Sorted)
    (below : Entries Setting) (name : String) :
    (mergeEntries below above).get? name = overlay (below.get? name) (above.get? name) := by
  induction above generalizing below with
  | nil => rw [mergeEntries, Entries.get?, overlay_none]
  | cons first rest ih =>
    obtain ⟨other, setting⟩ := first
    rw [mergeEntries, ih (List.pairwise_cons.mp sorted).2, Entries.get?]
    by_cases same : name = other
    · subst same
      -- The name does not come again, so what was put in now stays.
      rw [if_pos rfl, Entries.get?_insert_self, sorted.get?_tail_eq_none, overlay_none,
        overlay_some]
    · rw [if_neg same, Entries.get?_insert_of_ne same]

/-- A group over something has at a name what both have there. -/
theorem get?_entries_mergeOver (origin : Origin) {entries : Entries Setting}
    (sorted : entries.Sorted) (below : Option Setting) (name : String) :
    (mergeOver below (.group origin entries)).entries.get? name =
      overlay (below.bind fun setting => setting.entries.get? name) (entries.get? name) := by
  rw [mergeOver, Setting.entries, get?_mergeEntries sorted]
  cases below <;> rfl

/-- **A layer over another, at one key.** If the later layer is open on the way to the key, the
merged settings have there what both layers have there, one over the other. -/
theorem at?_mergeOver {names : List String} {above : Setting} (isOpen : above.IsOpen names)
    (below : Option Setting) :
    (mergeOver below above).at? names = overlay (below.bind (at? names)) (above.at? names) := by
  -- By induction on the key: each name steps into one group of both layers.
  induction names generalizing below above with
  | nil => cases below <;> rfl
  | cons name names ih =>
    cases above with
    | leaf => cases isOpen
    | group origin entries =>
      have below_at : below.bind (at? (name :: names)) =
          (below.bind fun setting => setting.entries.get? name).bind (at? names) := by
        cases below <;> rfl
      rw [at?, get?_entries_mergeOver origin isOpen.1, below_at, at?, Setting.entries]
      cases here : Entries.get? name entries with
      | none => rfl
      | some inner => exact ih (isOpen.2 inner here) _

/-- What is put over something, or over nothing, keeps the way to a key open. -/
theorem IsOpen.mergeOver {names : List String} {below : Option Setting} {above : Setting}
    (openBelow : ∀ setting, below = some setting → setting.IsOpen names)
    (openAbove : above.IsOpen names) : (mergeOver below above).IsOpen names := by
  -- As for what is there: each name steps into one group of both layers.
  induction names generalizing below above with
  | nil => exact isOpen_nil _
  | cons name names ih =>
    cases above with
    | leaf => cases openAbove
    | group origin entries =>
      have step := get?_entries_mergeOver origin openAbove.1 below name
      rw [Setting.mergeOver] at step ⊢
      refine ⟨sorted_mergeEntries ?_ _, fun inner found => ?_⟩
      · cases below with
        | none => exact List.Pairwise.nil
        | some setting => exact (openBelow setting rfl).sorted
      · -- What is found is from below alone, or from above and over what is below.
        have openInner : ∀ setting,
            (below.bind fun setting => setting.entries.get? name) = some setting →
              setting.IsOpen names := by
          intro setting here
          obtain ⟨group, rfl, there⟩ := Option.bind_eq_some_iff.mp here
          exact (openBelow group rfl).of_get? there
        rw [Setting.entries, found] at step
        cases here : Entries.get? name entries with
        | none => exact openInner inner (step.trans (by rw [here, overlay_none])).symm
        | some setting =>
          rw [here, overlay_some] at step
          exact Option.some.inj step ▸ ih openInner (openAbove.2 setting here)

/-- Merging keeps the way to a key open. -/
theorem IsOpen.merge {names : List String} {below above : Setting} (openBelow : below.IsOpen names)
    (openAbove : above.IsOpen names) : (below.merge above).IsOpen names :=
  IsOpen.mergeOver (fun _ here => Option.some.inj here ▸ openBelow) openAbove

/-- Entries that are tidy and all behind the entries below are put in as they are. -/
theorem mergeEntries_eq_append {below above : Entries Setting}
    (sorted : Entries.Sorted (below ++ above))
    (alone : ∀ entry ∈ above, mergeOver none entry.2 = entry.2) :
    mergeEntries below above = below ++ above := by
  -- What was put in joins the entries below, and the others are behind it in turn.
  induction above generalizing below with
  | nil => rw [mergeEntries, List.append_nil]
  | cons first rest ih =>
    have before : ∀ entry ∈ below, entry.1 < first.1 := fun entry member =>
      (List.pairwise_append.mp sorted).2.2 entry member first List.mem_cons_self
    rw [List.append_cons] at sorted ⊢
    rw [mergeEntries, Entries.get?_eq_none fun entry member => (before entry member).ne,
      alone first List.mem_cons_self, Entries.insert_eq_append before]
    exact ih sorted fun entry member => alone entry (List.mem_cons_of_mem _ member)

/-- Tidy settings are not changed by being put over nothing. -/
theorem mergeOver_none {setting : Setting} (tidy : setting.Tidy leaves) :
    mergeOver none setting = setting := by
  induction tidy with
  | leaf => exact mergeOver_leaf _ _
  | group sorted _ ih =>
    rw [mergeOver]
    exact congrArg _ (mergeEntries_eq_append sorted ih)

/-- Tidy settings hide a value that they are put over. -/
theorem mergeOver_some_leaf {setting : Setting} (tidy : setting.Tidy leaves) (value : Value) :
    mergeOver (some (.leaf origin value)) setting = setting := by
  conv_rhs => rw [← mergeOver_none tidy]
  cases setting with
  | leaf => rw [mergeOver_leaf, mergeOver_leaf]
  | group => rw [mergeOver, mergeOver]; rfl

/-! ## Many layers -/

/-- A layer is open on the way to a key and holds nothing there but a value. -/
structure Settles (names : List String) (layer : Setting) : Prop where
  isOpen : layer.IsOpen names
  isLeaf : ∀ setting, layer.at? names = some setting → setting.IsLeaf

variable {names : List String}

/-- What a layer holds at a key that it settles hides what is below it. -/
theorem Settles.at?_merge {layer : Setting} (settles : layer.Settles names) (below : Setting) :
    (below.merge layer).at? names = (layer.at? names).or (below.at? names) := by
  rw [merge, at?_mergeOver settles.isOpen]
  cases here : layer.at? names with
  | none => rfl
  | some setting =>
    obtain ⟨origin, value, rfl⟩ := settles.isLeaf setting here
    rw [overlay_some, mergeOver_leaf, Option.some_or]

/-- **The last layer wins.** Settings merged from layers that settle a key hold there what the last
layer holds that holds anything, else what is at the bottom. -/
theorem at?_foldl_merge {layers : List Setting} (settles : ∀ layer ∈ layers, layer.Settles names)
    (bottom : Setting) :
    (layers.foldl merge bottom).at? names =
      (layers.filterMap (at? names)).getLast?.or (bottom.at? names) := by
  -- By induction on the layers, over the settings that the layers in front have led to.
  induction layers generalizing bottom with
  | nil => rfl
  | cons layer rest ih =>
    obtain ⟨settlesFirst, settlesRest⟩ := List.forall_mem_cons.mp settles
    rw [List.foldl_cons, ih settlesRest, settlesFirst.at?_merge]
    cases here : layer.at? names with
    | none => rw [List.filterMap_cons_none here, Option.none_or]
    | some setting =>
      rw [List.filterMap_cons_some here, Option.some_or, List.getLast?_cons]
      cases (rest.filterMap (at? names)).getLast? <;> rfl

/-- Merged settings hold nothing at a key where both layers hold nothing. -/
theorem at?_merge_eq_none_iff {above : Setting} (isOpen : above.IsOpen names) (below : Setting) :
    (below.merge above).at? names = none ↔ below.at? names = none ∧ above.at? names = none := by
  rw [merge, at?_mergeOver isOpen, Option.bind_some]
  cases above.at? names with
  | none => exact ⟨fun absent => ⟨absent, rfl⟩, And.left⟩
  | some setting => exact ⟨nofun, fun absent => nomatch absent.2⟩

/-- Settings merged from layers hold nothing at a key where no layer holds anything. -/
theorem at?_foldl_merge_eq_none_iff {layers : List Setting}
    (isOpen : ∀ layer ∈ layers, layer.IsOpen names) (bottom : Setting) :
    (layers.foldl merge bottom).at? names = none ↔
      bottom.at? names = none ∧ ∀ layer ∈ layers, layer.at? names = none := by
  induction layers generalizing bottom with
  | nil => exact ⟨fun absent => ⟨absent, nofun⟩, And.left⟩
  | cons layer rest ih =>
    obtain ⟨openFirst, openRest⟩ := List.forall_mem_cons.mp isOpen
    rw [List.foldl_cons, ih openRest, at?_merge_eq_none_iff openFirst, List.forall_mem_cons,
      and_assoc]

/-- Settings merged from layers that are open on the way to a key are open. -/
theorem isOpen_foldl_merge {layers : List Setting} (isOpen : ∀ layer ∈ layers, layer.IsOpen names)
    {bottom : Setting} (openBottom : bottom.IsOpen names) :
    (layers.foldl merge bottom).IsOpen names :=
  List.foldlRecOn layers _ (motive := IsOpen names) openBottom fun _ openBelow layer member =>
    openBelow.merge (isOpen layer member)

/-! ## Layers that assign to keys -/

/-- A layer that assigns nothing. -/
theorem isOpen_group_nil (origin : Origin) (names : List String) :
    (group origin []).IsOpen names := by
  cases names with
  | nil => exact isOpen_nil _
  | cons name names => exact ⟨List.Pairwise.nil, nofun⟩

/-- A layer that assigns nothing holds nothing at a key. -/
theorem at?_group_nil (nonempty : names ≠ []) : (group origin []).at? names = none := by
  cases names with
  | nil => exact absurd rfl nonempty
  | cons name names => rfl

/-- What assigns a tidy value is tidy. -/
theorem tidy_nest {value : Value} (tidy : value.Tidy leaves) (names : List String) :
    (nest origin names value).Tidy leaves := by
  induction names with
  | nil => exact tidy origin
  | cons name names ih =>
    exact .group (List.pairwise_singleton _ _) (List.forall_mem_singleton.mpr ih)

/-- What is assigned to a key is there. -/
theorem at?_nest (names : List String) (value : Value) :
    (nest origin names value).at? names = some (ofValue origin value) := by
  induction names with
  | nil => rfl
  | cons name names ih =>
    rw [nest, at?, Setting.entries, Entries.get?, if_pos rfl, Option.bind_some, ih]

/-- The way to the key that is assigned to is open. -/
theorem isOpen_nest (names : List String) (value : Value) :
    (nest origin names value).IsOpen names := by
  induction names with
  | nil => exact isOpen_nil _
  | cons name names ih =>
    refine ⟨List.pairwise_singleton _ _, fun inner found => ?_⟩
    rw [Entries.get?, if_pos rfl] at found
    exact Option.some.inj found ▸ ih

/-- The way to a key is open where something is assigned to a key apart from it. -/
theorem isOpen_nest_of_apart {others : List String} (apart : Apart names others) (value : Value) :
    (nest origin others value).IsOpen names := by
  induction names generalizing others with
  | nil => exact isOpen_nil _
  | cons name names ih =>
    cases others with
    | nil => exact absurd (List.nil_prefix) apart.notBelow
    | cons other others =>
      refine ⟨List.pairwise_singleton _ _, fun inner found => ?_⟩
      by_cases same : name = other
      · subst same
        rw [Entries.get?, if_pos rfl] at found
        exact Option.some.inj found ▸ ih apart.of_cons
      · rw [Entries.get?, if_neg same] at found
        cases found

/-- Nothing is at a key where something is assigned to a key apart from it. -/
theorem at?_nest_of_apart {others : List String} (apart : Apart names others) (value : Value) :
    (nest origin others value).at? names = none := by
  induction names generalizing others with
  | nil => exact absurd (List.nil_prefix) apart.notAbove
  | cons name names ih =>
    cases others with
    | nil => exact absurd (List.nil_prefix) apart.notBelow
    | cons other others =>
      rw [nest, at?, Setting.entries]
      by_cases same : name = other
      · subst same
        rw [Entries.get?, if_pos rfl, Option.bind_some, ih apart.of_cons]
      · rw [Entries.get?, if_neg same, Entries.get?, Option.bind_none]

/-- **A key is set alone.** Settings hold at a key what they held there before something is put in
at a key apart from it. -/
theorem at?_merge_nest_of_apart {others : List String} (apart : Apart names others)
    (settings : Setting) (value : Value) :
    (settings.merge (nest origin others value)).at? names = settings.at? names := by
  rw [merge, at?_mergeOver (isOpen_nest_of_apart apart value), at?_nest_of_apart apart,
    overlay_none, Option.bind_some]

/-- A layer that assigns a value to a key settles it. -/
theorem settles_nest (names : List String) {value : Value}
    (plain : ∀ entries, value ≠ .map entries) :
    (nest origin names value).Settles names where
  isOpen := isOpen_nest names value
  isLeaf := by
    intro setting found
    rw [at?_nest] at found
    obtain rfl := Option.some.inj found
    cases value with
    | map entries => exact absurd rfl (plain entries)
    | _ => exact ⟨_, _, rfl⟩

/-- A layer that assigns to one key settles those apart from it. -/
theorem settles_nest_of_apart {others : List String} (apart : Apart names others) (value : Value) :
    (nest origin others value).Settles names where
  isOpen := isOpen_nest_of_apart apart value
  isLeaf := by
    intro setting found
    rw [at?_nest_of_apart apart] at found
    cases found

/-- Settings merged from layers that settle a key settle it, where there was nothing before. -/
theorem settles_foldl_merge {layers : List Setting}
    (settles : ∀ layer ∈ layers, layer.Settles names)
    (nonempty : names ≠ []) : (layers.foldl merge (group origin [])).Settles names where
  isOpen := isOpen_foldl_merge (fun layer member => (settles layer member).isOpen)
    (isOpen_group_nil origin names)
  isLeaf := by
    intro setting found
    rw [at?_foldl_merge settles, at?_group_nil nonempty, Option.or_none] at found
    obtain ⟨layer, member, here⟩ := List.mem_filterMap.mp (List.mem_of_getLast? found)
    exact (settles layer member).isLeaf setting here

/-! ## Defaults, a file, variables and flags -/

/-- The settings of a layer that assigns values to keys, as merged layers of one value each. -/
theorem ofAssignments_eq (origin : Origin) (assigned : List (List String × Value)) :
    ofAssignments origin assigned =
      (assigned.map fun assignment => nest origin assignment.1 assignment.2).foldl merge
        (group origin []) := by
  rw [ofAssignments, List.foldl_map]

/-- The merged settings of a layer at the bottom, a file and two groups of layers. -/
def stack (bottom : Setting) (file : Option Setting) (environment flags : List Setting) : Setting :=
  ((file.toList.foldl merge bottom).merge (environment.foldl merge (group .environment []))).merge
    (flags.foldl merge (group .flags []))

variable {bottom : Setting} {file : Option Setting} {environment flags : List Setting}

/-- A stack of layers that are open on the way to a key is open. -/
theorem isOpen_stack (openBottom : bottom.IsOpen names)
    (openFile : ∀ layer ∈ file.toList, layer.IsOpen names)
    (openEnvironment : ∀ layer ∈ environment, layer.IsOpen names)
    (openFlags : ∀ layer ∈ flags, layer.IsOpen names) :
    (stack bottom file environment flags).IsOpen names := by
  have start := isOpen_foldl_merge openFile openBottom
  have above := isOpen_foldl_merge openEnvironment (isOpen_group_nil .environment names)
  have top := isOpen_foldl_merge openFlags (isOpen_group_nil .flags names)
  exact (start.merge above).merge top

/-- A stack holds nothing at a key where no layer holds anything. -/
theorem at?_stack_eq_none_iff (nonempty : names ≠ [])
    (openFile : ∀ layer ∈ file.toList, layer.IsOpen names)
    (openEnvironment : ∀ layer ∈ environment, layer.IsOpen names)
    (openFlags : ∀ layer ∈ flags, layer.IsOpen names) :
    (stack bottom file environment flags).at? names = none ↔
      bottom.at? names = none ∧ ∀ layer ∈ file.toList ++ environment ++ flags,
        layer.at? names = none := by
  have above := isOpen_foldl_merge openEnvironment (isOpen_group_nil .environment names)
  have top := isOpen_foldl_merge openFlags (isOpen_group_nil .flags names)
  rw [stack, at?_merge_eq_none_iff top, at?_merge_eq_none_iff above,
    at?_foldl_merge_eq_none_iff openFile, at?_foldl_merge_eq_none_iff openEnvironment,
    at?_foldl_merge_eq_none_iff openFlags, at?_group_nil nonempty, at?_group_nil nonempty,
    List.forall_mem_append, List.forall_mem_append]
  tauto

/-- **The last layer of a stack wins.** A file may hold a group at the key where there is a value
below it, which it hides. -/
theorem at?_stack (leafBottom : ∀ setting, bottom.at? names = some setting → setting.IsLeaf)
    (nonempty : names ≠ [])
    (fits : ∀ layer ∈ file.toList, layer.Tidy leaves ∧ layer.IsOpen names)
    (settlesEnvironment : ∀ layer ∈ environment, layer.Settles names)
    (settlesFlags : ∀ layer ∈ flags, layer.Settles names) :
    (stack bottom file environment flags).at? names =
      ((bottom :: (file.toList ++ environment ++ flags)).filterMap (at? names)).getLast? := by
  -- A file does not settle the key, but what it holds there is tidy and lies over a value at most.
  have hidden : (file.toList.foldl merge bottom).at? names =
      (file.toList.filterMap (at? names)).getLast?.or (bottom.at? names) := by
    cases file with
    | none => rfl
    | some layer =>
      obtain ⟨tidy, isOpen⟩ := fits layer List.mem_cons_self
      show (mergeOver (some bottom) layer).at? names = _
      rw [at?_mergeOver isOpen, Option.bind_some, Option.toList_some]
      cases here : layer.at? names with
      | none => rw [List.filterMap_cons_none here]; rfl
      | some setting =>
        rw [List.filterMap_cons_some here, overlay_some]
        cases below : bottom.at? names with
        | none => rw [mergeOver_none (tidy.of_at? here)]; rfl
        | some value =>
          obtain ⟨origin, value, rfl⟩ := leafBottom value below
          rw [mergeOver_some_leaf (tidy.of_at? here)]
          rfl
  have first : ([bottom].filterMap (at? names)).getLast? = bottom.at? names := by
    rw [List.filterMap_cons]
    cases bottom.at? names <;> rfl
  rw [stack, (settles_foldl_merge settlesFlags nonempty).at?_merge,
    (settles_foldl_merge settlesEnvironment nonempty).at?_merge, at?_foldl_merge settlesFlags,
    at?_foldl_merge settlesEnvironment, hidden, at?_group_nil nonempty, at?_group_nil nonempty,
    Option.or_none, Option.or_none,
    ← List.singleton_append, List.filterMap_append, List.getLast?_append, List.filterMap_append,
    List.getLast?_append, List.filterMap_append, List.getLast?_append, first, Option.or_assoc,
    Option.or_assoc]

end Setting

end BundleFinish.Settings
