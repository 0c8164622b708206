import BundleFinish.Proofs.DeclarationPlaces

/-! # Resolving paths

Cleaning works on components from the front to the back, so a path behind a directory is cleaned
from what is left of the directory (`Path.foldl_cleanStep_join`). A cleaned path has the components
that cleaning leaves, and cleaning it again leaves it as it is. What a path resolves to therefore
depends on its components only, and relative paths resolve as if they stood behind the resolved base
directory. -/

namespace BundleFinish

namespace Path

variable {path directory : Path}

/-! ## Cleaning from the front -/

/-- A leading `.` says nothing to cleaning. -/
theorem foldl_cleanStep_filter (components kept : List Component) :
    (components.filter (· ≠ .here)).foldl cleanStep kept = components.foldl cleanStep kept := by
  induction components generalizing kept with
  | nil => rfl
  | cons component others ih =>
    by_cases here : component = .here
    · subst here
      rw [List.filter_cons_of_neg (by simp), ih, List.foldl_cons, cleanStep]
    · rw [List.filter_cons_of_pos (by simpa using here), List.foldl_cons, ih, List.foldl_cons]

/-- The steps of a relative path are its components without a leading `.`. -/
theorem steps_splitSlash (relative : path.isAbsolute = false) :
    steps (splitSlash path.octets) = path.components.filter (· ≠ .here) := by
  obtain ⟨first, others, split⟩ := List.exists_cons_of_ne_nil (splitSlash_ne_nil path.octets)
  have loud : ∀ pieces : List Bytes, (steps pieces).filter (· ≠ .here) = steps pieces := by
    intro pieces
    rw [List.filter_eq_self]
    intro component member
    obtain ⟨octets, -, rfl⟩ := List.mem_map.mp member
    unfold stepOf
    split_ifs <;> simp
  rw [components_eq split, split, List.filter_append, loud, ← List.singleton_append, steps_append]
  congr 1
  unfold front
  split_ifs with empty alone isDot
  · simp [empty, steps, saysNothing]
  · have absolute := (isAbsolute_iff split).mpr ⟨empty, alone⟩
    rw [relative] at absolute
    cases absolute
  · simp [isDot, steps, saysNothing]
  · have spoken : saysNothing first = false := by simp [saysNothing, empty, isDot]
    have shown : stepOf first ≠ .here := by
      unfold stepOf
      split_ifs <;> simp
    simp [steps, spoken, shown]

/-- A relative path behind a directory is cleaned from what is left of the directory. -/
theorem foldl_cleanStep_join (directory : Path) (relative : path.isAbsolute = false) :
    (directory.join path).components.foldl cleanStep [] =
      path.components.foldl cleanStep (directory.components.foldl cleanStep []) := by
  by_cases empty : directory.octets = []
  · obtain rfl : directory = Path.empty := congrArg Path.mk empty
    rw [empty_join]
    rfl
  · rw [components_join empty relative, steps_splitSlash relative, List.foldl_append,
      foldl_cleanStep_filter]

/-- Names are kept. -/
theorem foldl_cleanStep_names (names : Location) (kept : List Component) :
    (names.map Component.name).foldl cleanStep kept =
      (names.map Component.name).reverse ++ kept := by
  induction names generalizing kept with
  | nil => rfl
  | cons name others ih =>
    rw [List.map_cons, List.foldl_cons, ih, cleanStep, List.reverse_cons, List.append_assoc]
    · rfl
    all_goals simp

/-- Names behind the path of a location stay when a path is cleaned. -/
theorem cleanComponents_names {names others : Location} (areNames : names.AreNames) :
    cleanComponents (names.path.components ++ others.map .name) =
      names.path.components ++ others.map .name := by
  have whole : names.path.components ++ others.map Component.name =
      .root :: (names ++ others).map .name := by
    rw [Location.components_path areNames, List.map_append, List.cons_append]
  rw [whole, cleanComponents, List.foldl_cons, foldl_cleanStep_names, List.reverse_append,
    List.reverse_reverse]
  rfl

/-- The path of a location is clean. -/
theorem cleanComponents_path {names : Location} (areNames : names.AreNames) :
    cleanComponents names.path.components = names.path.components := by
  have whole := @cleanComponents_names names [] areNames
  rwa [List.map_nil, List.append_nil] at whole

/-! ## Cleaned paths -/

/-- Different names are different steps. -/
theorem map_name_injective : Function.Injective (List.map Component.name) :=
  List.map_injective_iff.mpr fun _ _ same => Component.name.inj same

/-- The path of a location is left as it is. So is every cleaned path, which is one of these. -/
theorem clean_path {names : Location} (areNames : names.AreNames) :
    names.path.clean = names.path := by
  obtain ⟨left, -, cleaned, spelled⟩ := exists_location_of_clean names.isAbsolute_path
  rw [cleanComponents_path areNames, Location.components_path areNames, List.cons.injEq] at cleaned
  rw [spelled, map_name_injective cleaned.2]

/-- A cleaned path has the components that cleaning leaves. -/
theorem components_clean (absolute : path.isAbsolute = true) :
    path.clean.components = cleanComponents path.components := by
  obtain ⟨names, areNames, cleaned, spelled⟩ := exists_location_of_clean absolute
  rw [spelled, Location.components_path areNames, cleaned]

/-- A cleaned path is absolute where the path is. -/
theorem isAbsolute_clean (absolute : path.isAbsolute = true) : path.clean.isAbsolute = true := by
  obtain ⟨names, -, -, spelled⟩ := exists_location_of_clean absolute
  rw [spelled]
  exact names.isAbsolute_path

/-- A path is cleaned by its components only. -/
theorem clean_congr {p q : Path}
    (same : cleanComponents p.components = cleanComponents q.components) : p.clean = q.clean := by
  rw [clean, clean, same]

/-- Cleaning gives one path exactly where it leaves the same components. -/
theorem clean_eq_clean_iff {p q : Path} (absoluteP : p.isAbsolute = true)
    (absoluteQ : q.isAbsolute = true) :
    p.clean = q.clean ↔ cleanComponents p.components = cleanComponents q.components := by
  refine ⟨fun same => ?_, clean_congr⟩
  rw [← components_clean absoluteP, same, components_clean absoluteQ]

/-- Cleaning goes on from a cleaned path as from the path itself. -/
theorem foldl_cleanStep_clean (absolute : path.isAbsolute = true) :
    path.clean.components.foldl cleanStep [] = path.components.foldl cleanStep [] := by
  obtain ⟨names, areNames, cleaned, spelled⟩ := exists_location_of_clean absolute
  have kept := congrArg List.reverse cleaned
  rw [cleanComponents, List.reverse_reverse, List.reverse_cons] at kept
  rw [kept, spelled, Location.components_path areNames, List.foldl_cons]
  exact foldl_cleanStep_names names [.root]

/-- A path behind a cleaned directory is cleaned as behind the directory itself. -/
theorem clean_join_clean (absolute : directory.isAbsolute = true)
    (relative : path.isAbsolute = false) :
    (directory.clean.join path).clean = (directory.join path).clean := by
  refine clean_congr ?_
  rw [cleanComponents, cleanComponents, foldl_cleanStep_join _ relative,
    foldl_cleanStep_join _ relative, foldl_cleanStep_clean absolute]

/-- The path that names the directory itself. -/
def here : Path := .ofString "."

/-- A directory is cleaned in the same way with a `.` behind it. -/
theorem clean_join_here (directory : Path) : (directory.join here).clean = directory.clean := by
  refine clean_congr ?_
  have relative : here.isAbsolute = false := by decide
  have components : here.components = [.here] := by decide
  rw [cleanComponents, cleanComponents, foldl_cleanStep_join _ relative, components,
    List.foldl_cons, List.foldl_nil, cleanStep]

/-- Two spellings of one path start alike. -/
theorem isAbsolute_congr {p q : Path} (same : p.components = q.components) :
    p.isAbsolute = q.isAbsolute := by
  rw [Bool.eq_iff_iff]
  constructor
  · intro absolute
    exact isAbsolute_of_components (same ▸ components_of_isAbsolute absolute)
  · intro absolute
    exact isAbsolute_of_components (same ▸ components_of_isAbsolute absolute)

end Path

/-! ## Resolved paths -/

namespace Build.Options

open BundleFinish.Path

variable (options : Options) {directory : Path}

/-- Two spellings of one path resolve to the same path. -/
theorem resolve_congr (directory : Path) {p q : Path} (same : p.components = q.components) :
    options.resolve directory p = options.resolve directory q := by
  rcases absolute : p.isAbsolute with _ | _
  · have absoluteQ := (isAbsolute_congr same).symm.trans absolute
    unfold resolve
    rw [if_neg (by simp [absolute]), if_neg (by simp [absoluteQ])]
    refine clean_congr ?_
    rw [cleanComponents, cleanComponents, foldl_cleanStep_join _ absolute,
      foldl_cleanStep_join _ absoluteQ, same]
  · have absoluteQ := (isAbsolute_congr same).symm.trans absolute
    unfold resolve
    rw [if_pos absolute, if_pos absoluteQ]
    exact clean_congr (congrArg cleanComponents same)

/-- The resolved base directory is the base directory, cleaned. -/
theorem resolve_here (directory : Path) :
    options.resolve directory here = (options.base directory).clean := by
  unfold resolve
  rw [if_neg (by decide), clean_join_here]

/-- A relative path resolves behind the resolved base directory. -/
theorem resolve_of_relative (absolute : directory.isAbsolute = true) {path : Path}
    (relative : path.isAbsolute = false) :
    options.resolve directory path = ((options.resolve directory here).join path).clean := by
  rw [resolve_here, clean_join_clean (options.isAbsolute_base absolute) relative, resolve,
    if_neg (by simp [relative])]

/-- A resolved path is absolute. -/
theorem isAbsolute_resolve (absolute : directory.isAbsolute = true) (path : Path) :
    (options.resolve directory path).isAbsolute = true := by
  obtain ⟨whole, isAbsolute, resolved⟩ := options.exists_clean_eq_resolve absolute path
  rw [resolved]
  exact isAbsolute_clean isAbsolute

/-- Absolute paths resolve alike from everywhere. -/
theorem resolve_of_isAbsolute {path : Path} (absolute : path.isAbsolute = true) :
    options.resolve directory path = path.clean :=
  if_pos absolute

/-- A relative path is resolved against the configured directory, and that against the working
directory where it is relative itself: what is cleaned are the components of all of them. -/
theorem components_resolve_of_relative (absolute : directory.isAbsolute = true) {path : Path}
    (relative : path.isAbsolute = false) :
    (options.resolve directory path).components =
      cleanComponents ((if options.cwd.isAbsolute then [] else directory.components) ++
        options.cwd.components ++ path.components) := by
  have base := options.isAbsolute_base absolute
  have whole : ((options.base directory).join path).isAbsolute = true := by
    rwa [isAbsolute_join (octets_ne_nil_of_isAbsolute base) relative]
  rw [resolve, if_neg (by simp [relative]), components_clean whole, cleanComponents,
    foldl_cleanStep_join _ relative, cleanComponents, List.foldl_append, Options.base]
  rcases isAbsolute : options.cwd.isAbsolute with _ | _
  · simp only [Bool.false_eq_true, if_false, foldl_cleanStep_join _ isAbsolute, List.foldl_append]
  · simp only [if_true, List.nil_append]

/-- Paths resolve alike from base directories that are one when they are cleaned. -/
theorem resolve_eq_of_clean_base {others : Options} (absolute : directory.isAbsolute = true)
    (same : (others.base directory).clean = (options.base directory).clean) (path : Path) :
    others.resolve directory path = options.resolve directory path := by
  rcases isAbsolute : path.isAbsolute with _ | _
  · rw [others.resolve_of_relative absolute isAbsolute, others.resolve_here, same,
      ← options.resolve_here, ← options.resolve_of_relative absolute isAbsolute]
  · rw [others.resolve_of_isAbsolute isAbsolute, options.resolve_of_isAbsolute isAbsolute]

end Build.Options

end BundleFinish
