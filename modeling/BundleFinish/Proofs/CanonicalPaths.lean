import BundleFinish.Proofs.Resolution

/-! # Canonical paths

A canonical path is absolute and spelled without `.`, `..` and repeated slashes. Cleaning leaves
just these paths as they are. A resolved path is canonical, and so it is the same wherever it is
resolved again; and what a path resolves to depends on the base directory only as far as that is
cleaned (`Build.Options.resolve_canonical`). -/

namespace BundleFinish

namespace Path

variable {path : Path}

/-- **Canonical paths**: the root, or steps behind it with one slash in front of each; no step is
empty, `.` or `..`. -/
def IsCanonical (path : Path) : Prop :=
  path = root ∨ ∃ behind, path.octets = slash :: behind ∧
    ∀ step ∈ splitSlash behind, step ≠ [] ∧ step ≠ [dot] ∧ step ≠ [dot, dot]

/-- Canonical paths are the paths of locations. -/
theorem isCanonical_iff :
    path.IsCanonical ↔ ∃ names : Location, names.AreNames ∧ path = names.path := by
  constructor
  · rintro (rfl | ⟨behind, spelled, steps⟩)
    · exact ⟨[], nofun, rfl⟩
    · refine ⟨splitSlash behind, fun step member => ?_, ?_⟩
      · obtain ⟨some, notHere, notUp⟩ := steps step member
        exact isName_iff.mpr ⟨some, notHere, notUp, slash_not_mem_of_mem_splitSlash member⟩
      · rw [Location.path, joinSlash_splitSlash, ← spelled]
  · rintro ⟨names, areNames, rfl⟩
    by_cases below : names = []
    · exact .inl (congrArg Location.path below)
    · refine .inr ⟨joinSlash names, rfl, ?_⟩
      have noSlash := fun name member => (isName_iff.mp (areNames name member)).2.2.2
      rw [splitSlash_joinSlash below noSlash]
      intro name member
      obtain ⟨some, notHere, notUp, -⟩ := isName_iff.mp (areNames name member)
      exact ⟨some, notHere, notUp⟩

/-- A canonical path is absolute. -/
theorem IsCanonical.isAbsolute (canonical : path.IsCanonical) : path.isAbsolute = true := by
  obtain ⟨names, -, rfl⟩ := isCanonical_iff.mp canonical
  exact names.isAbsolute_path

/-- A canonical path is clean. -/
theorem IsCanonical.clean_eq (canonical : path.IsCanonical) : path.clean = path := by
  obtain ⟨names, areNames, rfl⟩ := isCanonical_iff.mp canonical
  exact clean_path areNames

/-- Two canonical spellings of one path are one. -/
theorem IsCanonical.eq_of_same {p q : Path} (canonicalP : p.IsCanonical)
    (canonicalQ : q.IsCanonical) (same : p.components = q.components) : p = q := by
  rw [← canonicalP.clean_eq, ← canonicalQ.clean_eq]
  exact clean_congr (congrArg cleanComponents same)

/-- A cleaned path is canonical. -/
theorem isCanonical_clean (absolute : path.isAbsolute = true) : path.clean.IsCanonical := by
  obtain ⟨names, areNames, -, spelled⟩ := exists_location_of_clean absolute
  exact isCanonical_iff.mpr ⟨names, areNames, spelled⟩

end Path

namespace Build.Options

open BundleFinish.Path

/-- A canonical path resolves to itself, from everywhere. -/
theorem resolve_of_isCanonical (options : Options) {path : Path} (canonical : path.IsCanonical)
    (directory : Path) : options.resolve directory path = path := by
  rw [options.resolve_of_isAbsolute canonical.isAbsolute, canonical.clean_eq]

/-- For a process that works in a directory, a path resolves to a canonical path. -/
theorem isCanonical_resolve (options : Options) {directory : Path}
    (absolute : directory.isAbsolute = true) (path : Path) :
    (options.resolve directory path).IsCanonical := by
  obtain ⟨whole, isAbsolute, resolved⟩ := options.exists_clean_eq_resolve absolute path
  rw [resolved]
  exact isCanonical_clean isAbsolute

/-- **Resolved paths.** For a process that works in a directory, every path resolves to an absolute
canonical path, and just the canonical paths resolve to themselves. A resolved path stays the same
when it is resolved again, with any options and from anywhere, and an absolute path resolves alike
with all options. Another spelling of the base directory, which is cleaned to the same path, changes
no resolved path. -/
theorem resolve_canonical (options : Options) {directory : Path}
    (absolute : directory.isAbsolute = true) :
    (∀ path, (options.resolve directory path).isAbsolute = true ∧
      (options.resolve directory path).IsCanonical) ∧
    (∀ path, options.resolve directory path = path ↔ path.IsCanonical) ∧
    (∀ (path elsewhere : Path) (others : Options),
      others.resolve elsewhere (options.resolve directory path) =
        options.resolve directory path) ∧
    (∀ path, path.isAbsolute = true → ∀ (elsewhere : Path) (others : Options),
      others.resolve elsewhere path = options.resolve directory path) ∧
    ∀ cwd : Path,
      (({ options with cwd } : Options).base directory).clean = (options.base directory).clean →
        (∀ path, ({ options with cwd } : Options).resolve directory path =
          options.resolve directory path) ∧
        ({ options with cwd } : Options).resolvedEntries directory =
          options.resolvedEntries directory ∧
        ({ options with cwd } : Options).resolvedRootDir directory =
          options.resolvedRootDir directory ∧
        ({ options with cwd } : Options).resolvedOutDir directory =
          options.resolvedOutDir directory := by
  have canonical := options.isCanonical_resolve absolute
  refine ⟨?_, ?_, ?_, ?_, ?_⟩
  · exact fun path => ⟨(canonical path).isAbsolute, canonical path⟩
  · intro path
    refine ⟨fun same => same ▸ canonical path, fun isCanonical => ?_⟩
    exact options.resolve_of_isCanonical isCanonical directory
  · exact fun path elsewhere others => others.resolve_of_isCanonical (canonical path) elsewhere
  · intro path isAbsolute elsewhere others
    rw [others.resolve_of_isAbsolute isAbsolute, options.resolve_of_isAbsolute isAbsolute]
  · intro cwd same
    have alike := options.resolve_eq_of_clean_base absolute same
    refine ⟨alike, ?_, alike _, alike _⟩
    exact List.map_congr_left fun path _ => alike path

/-- Options with a base directory beside the working directory. -/
def besideOptions : Options :=
  { default with cwd := .ofString ".././pkg//", entryPoints := [.ofString "../pkg/src/index.ts"] }

theorem resolve_canonical_sample :
    (Path.ofString "/work/").isAbsolute = true ∧
      besideOptions.resolve (.ofString "/work/") (.ofString "../../../x/./y/") =
        .ofString "/x/y" ∧
      (besideOptions.resolve (.ofString "/work/") (.ofString "../../../x/./y/")).IsCanonical ∧
      default.resolve (.ofString "/work/") (.ofString "/a//b/..") = .ofString "/a" ∧
      ({ besideOptions with cwd := .ofString "/pkg" } : Options).resolvedEntries
        (.ofString "/work/") = [.ofString "/pkg/src/index.ts"] := by
  have absolute : (Path.ofString "/work/").isAbsolute = true := by decide
  obtain ⟨canonical, -, -, alike, moved⟩ := besideOptions.resolve_canonical absolute
  refine ⟨absolute, by decide +kernel, (canonical _).2, ?_, ?_⟩
  · exact (alike (.ofString "/a//b/..") (by decide) (.ofString "/work/") default).trans
      (by decide +kernel)
  · exact (moved (.ofString "/pkg") (by decide +kernel)).2.1.trans (by decide +kernel)

end Build.Options

end BundleFinish
