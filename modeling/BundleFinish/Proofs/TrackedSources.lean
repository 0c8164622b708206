import BundleFinish.Build.Stage
import BundleFinish.Proofs.Resolution
import Mathlib.Data.List.Perm.Basic

/-! # Tracked sources over a run of load events

Trackers that share one set hear load events one after the other. A step adds the path of the event
at the end of the set, or leaves the set alone; so a run tracks the paths that trackers keep, each
where it comes first and in the spelling of that place (`TrackedFiles.paths_hearAll`). The plan is
the part of the tracked sources that resolve to entry points. Which paths are in it, up to spelling,
depends on the set of events and on the set of resolved entry points only. -/

namespace BundleFinish.Build

/-- A load event: a tracker hears that a path is loaded. -/
structure LoadEvent where
  tracker : Tracker
  path : Path

namespace LoadEvent

/-- Whether the tracker keeps the path. -/
def isKept (event : LoadEvent) : Bool := event.tracker.matchesPath event.path

/-- The paths that trackers keep, in the order of the events. -/
def keptPaths (events : List LoadEvent) : List Path := (events.filter isKept).map path

/-- A path that its tracker keeps comes before the others. -/
theorem keptPaths_cons_of_isKept {event : LoadEvent} (kept : event.isKept = true)
    (others : List LoadEvent) : keptPaths (event :: others) = event.path :: keptPaths others := by
  rw [keptPaths, List.filter_cons_of_pos kept]
  rfl

/-- A path that its tracker does not keep is passed over. -/
theorem keptPaths_cons_of_not_isKept {event : LoadEvent} (passed : event.isKept = false)
    (others : List LoadEvent) : keptPaths (event :: others) = keptPaths others := by
  rw [keptPaths, List.filter_cons_of_neg (by simp [passed])]
  rfl

end LoadEvent

open LoadEvent (keptPaths)

/-- A tracker never has anything loaded in place of a file. -/
theorem Tracker.override_load (tracker : Tracker) (tracked : TrackedFiles) (path : Path) :
    (tracker.load tracked path).override = none := by
  unfold load
  split <;> rfl

namespace TrackedFiles

variable (tracked : TrackedFiles) (event : LoadEvent) (events : List LoadEvent)

/-- What is tracked behind a load event. -/
def hear : TrackedFiles := (event.tracker.load tracked event.path).tracked

/-- What is tracked behind load events. -/
def hearAll : TrackedFiles := events.foldl hear tracked

/-! ## One event -/

/-- A load event adds its path at the end, if the tracker keeps it and it is new. -/
theorem paths_hear :
    (tracked.hear event).paths =
      if event.isKept ∧ !tracked.contains event.path then tracked.paths ++ [event.path]
      else tracked.paths := by
  unfold hear Tracker.load LoadEvent.isKept
  by_cases new : event.tracker.matchesPath event.path ∧ !tracked.contains event.path
  · have unknown : tracked.contains event.path = false := by simpa using new.2
    rw [if_pos new, if_pos new, paths_insert, if_neg (by simp [unknown])]
  · rw [if_neg new, if_neg new]

/-- A load event leaves the tracked paths alone or adds one at their end. -/
theorem paths_hear_cases :
    (tracked.hear event).paths = tracked.paths ∨
      (tracked.hear event).paths = tracked.paths ++ [event.path] := by
  rw [paths_hear]
  split
  · exact .inr rfl
  · exact .inl rfl

/-- A path is tracked, up to spelling, when it was tracked before or the event is about it. -/
theorem mem_components_hear {components : List Path.Component} :
    components ∈ (tracked.hear event).paths.map Path.components ↔
      components ∈ tracked.paths.map Path.components ∨
        (event.isKept = true ∧ event.path.components = components) := by
  rw [paths_hear]
  split
  case isTrue new =>
    rw [List.map_append, List.mem_append, List.map_singleton, List.mem_singleton]
    refine or_congr_right ⟨fun same => ⟨new.1, same.symm⟩, fun heard => heard.2.symm⟩
  case isFalse known =>
    refine ⟨.inl, fun heard => ?_⟩
    rcases heard with before | ⟨kept, rfl⟩
    · exact before
    · have contained : tracked.contains event.path = true := by simpa [kept] using known
      obtain ⟨path, member, same⟩ := List.any_eq_true.mp contained
      exact List.mem_map.mpr ⟨path, member, Path.same_iff.mp same⟩

/-! ## Runs of events -/

@[simp] theorem hearAll_nil : tracked.hearAll [] = tracked := rfl

@[simp] theorem hearAll_cons :
    tracked.hearAll (event :: events) = (tracked.hear event).hearAll events := rfl

@[simp] theorem hearAll_concat :
    tracked.hearAll (events ++ [event]) = (tracked.hearAll events).hear event := by
  rw [hearAll, List.foldl_append]
  rfl

/-- A run goes on from tracked paths as removing later spellings goes on from what is kept. -/
theorem paths_hearAll_eq_loop :
    (tracked.hearAll events).paths =
      List.eraseDupsBy.loop Path.same (keptPaths events) tracked.paths.reverse := by
  -- The loop holds the tracked paths, the last one first.
  induction events generalizing tracked with
  | nil => exact (List.reverse_reverse tracked.paths).symm
  | cons event others ih =>
    rw [hearAll_cons, ih, paths_hear]
    rcases kept : event.isKept with _ | _
    · rw [if_neg (by simp), LoadEvent.keptPaths_cons_of_not_isKept kept]
    · rw [LoadEvent.keptPaths_cons_of_isKept kept, List.eraseDupsBy.loop]
      have known : tracked.paths.reverse.any event.path.same = tracked.contains event.path := by
        rw [List.any_reverse, contains]
        congr 1
        funext path
        exact Bool.beq_comm
      rw [known]
      rcases contained : tracked.contains event.path with _ | _
      · rw [if_pos (by simp), List.reverse_append]
        rfl
      · rw [if_neg (by simp)]

/-- A run from nothing tracks the kept paths, each where it comes first. -/
theorem paths_hearAll :
    (empty.hearAll events).paths = (keptPaths events).eraseDupsBy Path.same :=
  paths_hearAll_eq_loop empty events

/-- What is tracked behind a run, up to spelling. -/
theorem mem_components_hearAll {components : List Path.Component} :
    components ∈ (tracked.hearAll events).paths.map Path.components ↔
      components ∈ tracked.paths.map Path.components ∨
        ∃ event ∈ events, event.isKept = true ∧ event.path.components = components := by
  induction events generalizing tracked with
  | nil => simp
  | cons event others ih =>
    rw [hearAll_cons, ih, mem_components_hear, or_assoc]
    simp

end TrackedFiles

/-! ## Plans -/

namespace Context

variable {context : Context} {directory path : Path}

/-- Whether a path resolves to an entry point. -/
def IsEntry (options : Options) (directory path : Path) : Prop :=
  ∃ entry ∈ options.entryPoints,
    (options.resolve directory path).components = (options.resolve directory entry).components

/-- A source is planned when it is tracked and resolves to an entry point. -/
theorem mem_emissionPlan_iff :
    path ∈ context.emissionPlan directory ↔
      path ∈ context.tracked.paths ∧ IsEntry context.options directory path := by
  rw [emissionPlan, List.mem_filter, Options.resolvedEntries, List.any_map, List.any_eq_true]
  simp [IsEntry]

/-- The plan keeps the order of the tracked sources. -/
theorem emissionPlan_sublist (context : Context) (directory : Path) :
    (context.emissionPlan directory).Sublist context.tracked.paths :=
  List.filter_sublist

/-- No source is planned in two spellings. -/
theorem distinct_emissionPlan (context : Context) (directory : Path) :
    (context.emissionPlan directory).Pairwise fun p q => p.components ≠ q.components :=
  context.tracked.distinct.sublist (context.emissionPlan_sublist directory)

/-- What is planned, up to spelling. -/
theorem mem_components_emissionPlan {components : List Path.Component} :
    components ∈ (context.emissionPlan directory).map Path.components ↔
      components ∈ context.tracked.paths.map Path.components ∧
        ∃ path : Path, path.components = components ∧ IsEntry context.options directory path := by
  simp only [List.mem_map, mem_emissionPlan_iff]
  constructor
  · rintro ⟨path, ⟨member, isEntry⟩, rfl⟩
    exact ⟨⟨path, member, rfl⟩, path, rfl, isEntry⟩
  · rintro ⟨⟨tracked, member, rfl⟩, path, same, entry, isEntry, resolved⟩
    -- Two spellings of one path resolve alike, so the tracked one is an entry point as well.
    refine ⟨tracked, ⟨member, entry, isEntry, ?_⟩, rfl⟩
    rw [← resolved, context.options.resolve_congr directory same]

/-- Contexts that track the same paths, up to spelling, plan the same paths, up to spelling and
order. -/
theorem perm_emissionPlan {other : Context} (sameOptions : other.options = context.options)
    (same : ∀ components, components ∈ other.tracked.paths.map Path.components ↔
      components ∈ context.tracked.paths.map Path.components) :
    ((other.emissionPlan directory).map Path.components).Perm
      ((context.emissionPlan directory).map Path.components) := by
  have nodup : ∀ context : Context,
      ((context.emissionPlan directory).map Path.components).Nodup := fun context =>
    List.pairwise_map.mpr (context.distinct_emissionPlan directory)
  rw [List.perm_ext_iff_of_nodup (nodup other) (nodup context)]
  intro components
  rw [mem_components_emissionPlan, mem_components_emissionPlan, same, sameOptions]

/-- The context behind load events, for options. -/
def heard (options : Options) (events : List LoadEvent) : Context :=
  ⟨options, TrackedFiles.empty.hearAll events⟩

/-- One more load event leaves the plan alone or adds its path at the end. -/
theorem emissionPlan_heard_concat (options : Options) (events : List LoadEvent)
    (event : LoadEvent) (directory : Path) :
    (heard options (events ++ [event])).emissionPlan directory =
        (heard options events).emissionPlan directory ∨
      (heard options (events ++ [event])).emissionPlan directory =
        (heard options events).emissionPlan directory ++ [event.path] := by
  have paths := (TrackedFiles.empty.hearAll events).paths_hear_cases event
  rw [← TrackedFiles.hearAll_concat] at paths
  rcases paths with same | more
  · left
    rw [emissionPlan, emissionPlan, heard, heard, same]
  · rw [emissionPlan, heard, more, List.filter_append]
    rcases isEntry : (options.resolvedEntries directory).any
        ((options.resolve directory event.path).same ·) with _ | _
    · left
      rw [List.filter_cons_of_neg (by simp [isEntry]), List.filter_nil, List.append_nil]
      rfl
    · right
      rw [List.filter_cons_of_pos (by simp [isEntry]), List.filter_nil]
      rfl

/-- The plan depends on the entry points only through what they resolve to. -/
theorem emissionPlan_congr_entries {options : Options} {entries : List Path}
    (same : ∀ path, path ∈ ({ options with entryPoints := entries } : Options).resolvedEntries
      directory ↔ path ∈ options.resolvedEntries directory) (tracked : TrackedFiles) :
    emissionPlan ⟨{ options with entryPoints := entries }, tracked⟩ directory =
      emissionPlan ⟨options, tracked⟩ directory := by
  refine List.filter_congr fun path _ => ?_
  rw [Bool.eq_iff_iff, List.any_eq_true, List.any_eq_true]
  exact exists_congr fun entry => and_congr_left' (same entry)

/-- **Tracked sources and the plan of any run.** Let trackers with any filters hear any load events
on one set. No event has anything loaded in place of a file. What is tracked are the kept paths,
each where it comes first and in the spelling of that place. The plan keeps the order of the tracked
sources, has those that resolve to an entry point, and has none in two spellings. One more event
leaves the plan alone or adds its path at the end; the same events in another order or number plan
the same paths up to spelling and order; and entry points that resolve to the same paths give the
same plan. -/
theorem tracked_and_plan_heard (options : Options) (directory : Path) (events : List LoadEvent) :
    let tracked := (heard options events).tracked.paths
    let plan := (heard options events).emissionPlan directory
    (∀ event : LoadEvent, ∀ before : TrackedFiles,
      (event.tracker.load before event.path).override = none) ∧
    tracked = (keptPaths events).eraseDupsBy Path.same ∧
    (plan.Sublist tracked ∧
      (∀ path, path ∈ plan ↔ path ∈ tracked ∧ IsEntry options directory path) ∧
      plan.Pairwise fun p q => p.components ≠ q.components) ∧
    (∀ event, (heard options (events ++ [event])).emissionPlan directory = plan ∨
      (heard options (events ++ [event])).emissionPlan directory = plan ++ [event.path]) ∧
    (∀ others : List LoadEvent, (∀ event, event ∈ others ↔ event ∈ events) →
      (((heard options others).emissionPlan directory).map Path.components).Perm
        (plan.map Path.components)) ∧
    ∀ entries : List Path,
      (∀ path, path ∈ ({ options with entryPoints := entries } : Options).resolvedEntries
        directory ↔ path ∈ options.resolvedEntries directory) →
      (heard { options with entryPoints := entries } events).emissionPlan directory = plan := by
  intro tracked plan
  refine ⟨fun event before => event.tracker.override_load before event.path,
    TrackedFiles.paths_hearAll events, ⟨emissionPlan_sublist _ directory,
      fun path => mem_emissionPlan_iff, distinct_emissionPlan _ directory⟩,
    fun event => emissionPlan_heard_concat options events event directory, ?_, ?_⟩
  · intro others same
    refine perm_emissionPlan rfl fun components => ?_
    rw [heard, heard, TrackedFiles.mem_components_hearAll, TrackedFiles.mem_components_hearAll]
    simp only [same]
  · intro entries same
    exact emissionPlan_congr_entries same _

/-- Two sources are entry points, a third one is not, and a style sheet is no source: the three are
tracked and the two are planned, each in its first spelling. Loaded in another order, one of them
twice, or with the entry points in other spellings and in another order, they are planned alike. -/
theorem tracked_and_plan_heard_sample :
    let options : Options :=
      { Options.default with
        cwd := .ofString "/p", entryPoints := [.ofString "src/a.ts", .ofString "src/b.ts"] }
    let first : LoadEvent := ⟨.standard, .ofString "/p/src/a.ts"⟩
    let second : LoadEvent := ⟨.standard, .ofString "/p/src/../src/b.ts"⟩
    let third : LoadEvent := ⟨.standard, .ofString "/p/src/c.ts"⟩
    let others : List LoadEvent :=
      [⟨.standard, .ofString "/p/src/a.css"⟩, ⟨.standard, .ofString "/p/src/./a.ts"⟩]
    let events := [first, second, third] ++ others
    let plan := (heard options events).emissionPlan .root
    (heard options events).tracked.paths = [first.path, second.path, third.path] ∧
      plan = [first.path, second.path] ∧
      (((heard options (second :: events)).emissionPlan .root).map Path.components).Perm
        (plan.map Path.components) ∧
      (heard { options with entryPoints := [.ofString "/p/src/b.ts", .ofString "./src/a.ts"] }
        events).emissionPlan .root = plan := by
  intro options first second third others events plan
  obtain ⟨-, tracked, -, -, reordered, respelled⟩ := tracked_and_plan_heard options .root events
  refine ⟨tracked.trans (by decide +kernel), by decide +kernel,
    reordered (second :: events) fun event => ?_, respelled _ fun path => ?_⟩
  · rw [List.mem_cons]
    refine ⟨fun heard => heard.elim (fun isSecond => ?_) id, .inr⟩
    rw [isSecond]
    exact List.mem_cons_of_mem first List.mem_cons_self
  · have entries : ({ options with
        entryPoints := [.ofString "/p/src/b.ts", .ofString "./src/a.ts"] } :
          Options).resolvedEntries .root = (options.resolvedEntries .root).reverse := by decide
    rw [entries, List.mem_reverse]

end Context

end BundleFinish.Build
