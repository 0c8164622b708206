import BundleFinish.Build.Options
import BundleFinish.Fault
import BundleFinish.Workspace

/-! # Tracked sources

A tracker listens to the sources that a bundler loads and keeps those that match its filter, in the
order in which they come and in the first spelling of each. It never changes what is loaded. -/

namespace BundleFinish.Build

/-- Sources in the order in which they were loaded first. Two spellings of one path are one
source. -/
structure TrackedFiles where
  paths : List Path
  distinct : paths.Pairwise fun p q => p.components ≠ q.components

namespace TrackedFiles

/-- Nothing tracked. -/
def empty : TrackedFiles := ⟨[], .nil⟩

/-- Whether a path is tracked, in some spelling. -/
def contains (tracked : TrackedFiles) (path : Path) : Bool := tracked.paths.any (·.same path)

/-- Add a path at the end, unless it is tracked in some spelling. -/
def insert (tracked : TrackedFiles) (path : Path) : TrackedFiles :=
  if known : tracked.contains path then tracked
  else
    { paths := tracked.paths ++ [path]
      distinct := by
        refine List.pairwise_append.mpr ⟨tracked.distinct, List.pairwise_singleton _ _, ?_⟩
        intro p member q isPath same
        rw [List.mem_singleton] at isPath
        subst isPath
        exact known (List.any_eq_true.mpr ⟨p, member, Path.same_iff.mpr same⟩) }

@[simp] theorem paths_empty : empty.paths = [] := rfl

theorem paths_insert (tracked : TrackedFiles) (path : Path) :
    (tracked.insert path).paths =
      if tracked.contains path then tracked.paths else tracked.paths ++ [path] := by
  unfold insert
  split <;> rfl

end TrackedFiles

/-- A new content for a source that is loaded. -/
structure LoadOverride where
  content : String
  deriving DecidableEq, Repr

/-- What a load event leads to. -/
structure Loading where
  /-- What is loaded in place of the file, if anything. -/
  override : Option LoadOverride
  tracked : TrackedFiles
  log : List LogLine

/-- A listener to load events. -/
structure Tracker where
  filter : Pattern.Compiled

namespace Tracker

/-- The name under which a tracker is registered with a bundler. -/
def pluginName : String := "fob-entry-tracker"

/-- The part of the program that writes the log lines of this module. -/
def logTarget : String := "fob_postbuild::tracker"

/-- The pattern that sources of the language match: `.ts` or `.tsx` at the end. -/
def standardPattern : String := "\\.tsx?$"

/-- The tracker that keeps the paths with a match of a pattern. -/
def ofPattern (pattern : String) : Except Misconfiguration Tracker :=
  match Pattern.compile pattern with
  | .ok filter => .ok ⟨filter⟩
  | .error cause => .error (.trackerFilter pattern cause)

/-- The tracker that keeps the sources of the language. -/
def standard : Tracker :=
  (ofPattern standardPattern).toOption.getD ⟨⟨standardPattern, .empty⟩⟩

/-- Whether a tracker keeps a path. -/
def matchesPath (tracker : Tracker) (path : Path) : Bool := tracker.filter.isMatch path.display

/-- Hear that a path is loaded. -/
def load (tracker : Tracker) (tracked : TrackedFiles) (path : Path) : Loading :=
  if tracker.matchesPath path ∧ !tracked.contains path then
    { override := none
      tracked := tracked.insert path
      log := [⟨.trace, logTarget, s!"[fob-entry-tracker] tracked {path.display}"⟩] }
  else { override := none, tracked, log := [] }

end Tracker

end BundleFinish.Build
