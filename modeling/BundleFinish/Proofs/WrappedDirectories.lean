import BundleFinish.Proofs.FailedEdits
import BundleFinish.Proofs.FinishedScripts

/-! # Wrapped directories

Wrapping a directory goes through the scripts that stand directly in it, in the order of their
paths, whatever the order in which the directory lists them. It comes to the end of them, or stops
at the first one that cannot be edited; then those before it are wrapped, and nothing else has
changed (`Umd.wrapDirectory_cases`). -/

namespace BundleFinish

/-! ## The order of paths -/

namespace Path

/-- A path comes before another one. -/
def Before (p q : Path) : Prop := p.le q = true ∧ q.le p = false

/-- The order of octets is that of lists. -/
theorem octetsLe_iff {a b : Bytes} : octetsLe a b = true ↔ a ≤ b := by
  induction a generalizing b with
  | nil => simp [octetsLe]
  | cons x as ih =>
    rcases b with _ | ⟨y, bs⟩
    · simp [octetsLe]
    · rw [octetsLe, List.cons_le_cons_iff]
      split_ifs with below above
      · simp [below]
      · have differ : x ≠ y := fun same => UInt8.lt_irrefl y (same ▸ above)
        simp [below, differ]
      · -- Neither octet is below the other, so what follows decides.
        have same : x = y := UInt8.le_antisymm (UInt8.not_lt.mp above) (UInt8.not_lt.mp below)
        rw [ih]
        simp [same, UInt8.lt_irrefl]

/-- Behind the same components, the last ones decide. -/
theorem componentsLe_append (first : List Component) (a b : Component) :
    componentsLe (first ++ [a]) (first ++ [b]) = (a = b || a.le b) := by
  induction first with
  | nil =>
    by_cases same : a = b
    · simp [componentsLe, same]
    · simp [componentsLe, same]
  | cons component others ih =>
    rw [List.cons_append, List.cons_append, componentsLe, if_pos rfl, ih]

/-- Names behind a directory come in the order of their octets. -/
theorem le_join_name (directory : Path) {a b : Bytes} (nameA : isName a = true)
    (nameB : isName b = true) : (directory.join ⟨a⟩).le (directory.join ⟨b⟩) = octetsLe a b := by
  rw [le, components_join_name directory nameA, components_join_name directory nameB,
    componentsLe_append, Component.le]
  by_cases same : a = b
  · have itself : octetsLe b b = true := octetsLe_iff.mpr (List.le_refl b)
    simp [same, itself]
  · simp [same]

/-- Sorted by their octets, different names give paths behind a directory that come one before the
other. -/
theorem pairwise_before_of_names (directory : Path) {names : List Bytes}
    (isName : ∀ name ∈ names, isName name = true) (distinct : names.Nodup) :
    ((names.mergeSort octetsLe).map fun name => directory.join ⟨name⟩).Pairwise Before := by
  have sorted : (names.mergeSort octetsLe).Pairwise fun a b => octetsLe a b = true := by
    refine List.pairwise_mergeSort ?_ ?_ names
    · intro a b c first second
      exact octetsLe_iff.mpr (List.le_trans (octetsLe_iff.mp first) (octetsLe_iff.mp second))
    · intro a b
      rw [Bool.or_eq_true_iff, octetsLe_iff, octetsLe_iff]
      exact List.le_total a b
  have distinct' : (names.mergeSort octetsLe).Nodup :=
    (List.mergeSort_perm names octetsLe).nodup_iff.mpr distinct
  rw [List.pairwise_map]
  refine (sorted.and distinct').imp_of_mem fun {a b} memberA memberB ⟨le, differ⟩ => ?_
  have nameA := isName a (List.mem_mergeSort.mp memberA)
  have nameB := isName b (List.mem_mergeSort.mp memberB)
  rw [Before, le_join_name directory nameA nameB, le_join_name directory nameB nameA]
  refine ⟨le, ?_⟩
  rw [← Bool.not_eq_true, octetsLe_iff]
  exact fun ge => differ (List.le_antisymm (octetsLe_iff.mp le) ge)

/-- Paths that come one before the other are different. -/
theorem nodup_of_pairwise_before {paths : List Path} (ordered : paths.Pairwise Before) :
    paths.Nodup :=
  ordered.imp fun ⟨le, notLe⟩ same => by
    rw [same] at le notLe
    exact absurd le (Bool.eq_false_iff.mp notLe)

end Path

/-! ## The scripts of a directory, in order -/

namespace Umd

variable {globalName : String} {workspace : Workspace} {directory : Path} {place : Location}
  {names : List Bytes} {found : List Path}

/-- The scripts of a directory are not known exactly where it cannot be listed. -/
theorem scripts_eq_error_iff {cause : IoError} :
    scripts workspace directory = .error cause ↔
      workspace.files.list workspace.directory directory = .error cause := by
  unfold scripts
  rcases workspace.files.list workspace.directory directory with other | entries
  · simp [Except.map]
  · simp [Except.map]

/-- The scripts of a directory are those of its names that are script names of regular files, in the
order of their paths. -/
theorem exists_names_of_scripts (listed : scripts workspace directory = .ok found) :
    ∃ place, ∃ names : List Bytes,
      workspace.files.find workspace.directory directory = .ok (place, .directory) ∧
      found = names.map (fun name => directory.join ⟨name⟩) ∧
      (∀ name, name ∈ names ↔ (∃ stem, name = Utf8.encode (stem ++ ".js")) ∧
        ∃ content program,
          workspace.files.get? (place ++ [name]) = some (.file content program)) ∧
      (names.map fun name => directory.join ⟨name⟩).Pairwise Path.Before := by
  obtain ⟨entries, isListed, rfl⟩ := exists_of_map_eq_ok listed
  obtain ⟨place, located, -, rfl⟩ := FileTree.list_eq_ok_iff.mp isListed
  have isName : ∀ name ∈ scriptNames workspace.files place, Path.isName name = true := by
    intro name isNamed
    obtain ⟨-, content, program, stands⟩ := mem_scriptNames_iff.mp isNamed
    exact FileTree.isName_of_mem_children (FileTree.mem_children_iff.mpr stands)
  have distinct : (scriptNames workspace.files place).Nodup :=
    (FileTree.nodup_children workspace.files place).sublist (List.filter_sublist.map _)
  -- Sorting the paths is sorting the names by their octets.
  have sorted := List.map_mergeSort (r := Path.octetsLe) (s := Path.le)
    (f := fun name => directory.join ⟨name⟩) fun a memberA b memberB =>
      (Path.le_join_name directory (isName a memberA) (isName b memberB)).symm
  refine ⟨place, (scriptNames workspace.files place).mergeSort Path.octetsLe, located, ?_, ?_, ?_⟩
  · rw [sorted, scriptNames, List.map_map]
    rfl
  · intro name
    rw [List.mem_mergeSort, mem_scriptNames_iff]
    refine and_congr_left ?_
    rintro ⟨content, program, stands⟩
    exact isWrappable_iff (FileTree.isName_of_mem_children (FileTree.mem_children_iff.mpr stands))
  · exact Path.pairwise_before_of_names directory isName distinct

/-! ## What wrapping some of them changes -/

/-- What wrapping some scripts of a directory does to the files. -/
structure Wrapped (globalName : String) (place : Location) (names : List Bytes)
    (before after : FileTree) : Prop where
  /-- Each of them holds its former text in the wrapper. -/
  scripts : ∀ name ∈ names, ∃ content program text,
    before.get? (place ++ [name]) = some (.file content program) ∧
      Utf8.decode? content = some text ∧
      after.get? (place ++ [name]) = some (.file (Utf8.encode (wrap text globalName)) program)
  /-- Every other location holds what it held. -/
  others : ∀ location, (∀ name ∈ names, location ≠ place ++ [name]) →
    after.get? location = before.get? location

variable {tree files : FileTree} {start : Location}

/-- Scripts of a directory that are wrapped without a fault. -/
theorem wrapped_of_applyAll (located : tree.find start directory = .ok (place, .directory))
    (isFile : ∀ name ∈ names, ∃ content program,
      tree.get? (place ++ [name]) = some (.file content program))
    (distinct : (names.map fun name => directory.join ⟨name⟩).Nodup)
    (done : tree.applyAll start
      ((names.map fun name => directory.join ⟨name⟩).map (wrapEdit globalName)) = .ok files) :
    Wrapped globalName place names tree files := by
  have isName : ∀ name ∈ names, Path.isName name = true := by
    intro name member
    obtain ⟨content, program, stands⟩ := isFile name member
    exact FileTree.isName_of_mem_children (FileTree.mem_children_iff.mpr stands)
  have named : ∀ script ∈ names.map fun name => directory.join ⟨name⟩,
      ∃ name, Path.isName name = true ∧ script = directory.join ⟨name⟩ := by
    intro script member
    obtain ⟨name, isNamed, rfl⟩ := List.mem_map.mp member
    exact ⟨name, isName name isNamed, rfl⟩
  -- A script is a regular file, so its path leads to the entry and not behind a link.
  have finds : ∀ name ∈ names, ∃ content program text,
      tree.find start (directory.join ⟨name⟩) = .ok (place ++ [name], .file content program) ∧
        Utf8.decode? content = some text := by
    intro name member
    obtain ⟨there, content, program, text, found, isText⟩ :=
      FileTree.exists_of_mem_applyAll done
        (List.mem_map_of_mem (List.mem_map_of_mem member))
    obtain ⟨held, runs, stands⟩ := isFile name member
    obtain ⟨rfl, -⟩ := FileTree.find_join_name (isName name member) located
      (fun target linked => by cases stands.symm.trans linked) found
    exact ⟨content, program, text, found, isText⟩
  have leads : tree.LeadsInto start directory place
      ((names.map fun name => directory.join ⟨name⟩).map (wrapEdit globalName)) := by
    intro edit member name isNamed path location
    obtain ⟨_, isScript, rfl⟩ := List.mem_map.mp member
    obtain ⟨other, isOther, rfl⟩ := List.mem_map.mp isScript
    obtain rfl := Path.join_name_injective directory (isName other isOther) isNamed path
    obtain ⟨content, program, text, found, -⟩ := finds other isOther
    rw [wrapEdit, FileTree.leadsTo_iff, found]
    simp [eq_comm]
  constructor
  · intro name member
    obtain ⟨content, program, text, found, isText⟩ := finds name member
    have stands := FileTree.get?_of_find found
    refine ⟨content, program, text, stands, isText, ?_⟩
    rw [FileTree.get?_applyAll done, stands, Option.map_some,
      changesAt_wrapEdits leads distinct named (isName name member) (List.mem_map_of_mem member),
      Node.rewritten_text _ isText]
    rfl
  · intro location astray
    refine FileTree.get?_applyAll_of_astray done ?_
    intro edit member arrives
    obtain ⟨_, isScript, rfl⟩ := List.mem_map.mp member
    obtain ⟨name, isNamed, rfl⟩ := List.mem_map.mp isScript
    exact astray name isNamed ((leads _ member name (isName name isNamed) rfl location).mp arrives)

/-! ## How far wrapping comes -/

/-- Wrapping scripts makes their edits in order, to the end or to the first that fails. -/
theorem exists_of_outcome_wrapScripts (globalName : String) (found : List Path)
    (workspace : Workspace) :
    ∃ done verdict after, outcome (wrapScripts globalName found) workspace = (verdict, after) ∧
      workspace.files.applyAll workspace.directory (done.map (wrapEdit globalName)) =
        .ok after.files ∧
      ((verdict = .ok () ∧ done = found) ∨
        ∃ script later cause, found = done ++ script :: later ∧
          workspace.files.editable workspace.directory script = .error cause ∧
          verdict = .error (.io script cause)) := by
  induction found generalizing workspace with
  | nil => exact ⟨[], .ok (), workspace, rfl, rfl, .inl ⟨rfl, rfl⟩⟩
  | cons script others ih =>
    rw [wrapScripts, outcome_bind, outcome_wrapScript]
    rcases applied : workspace.files.apply workspace.directory (wrapEdit globalName script) with
      cause | files
    · exact ⟨[], .error (.io script cause), workspace, rfl, rfl, .inr ⟨script, others, cause, rfl,
        FileTree.apply_eq_error_iff.mp applied, rfl⟩⟩
    · obtain ⟨done, verdict, after, ran, edited, ended⟩ :=
        ih ({ workspace with files }.logged .debug logTarget
          s!"[fob-umd] wrapped {script.display}")
      refine ⟨script :: done, verdict, after, ran, ?_, ?_⟩
      · rw [List.map_cons, FileTree.applyAll_cons, applied]
        exact edited
      · -- What cannot be edited behind the first script could not be edited before it.
        rcases ended with ⟨isOk, rfl⟩ | ⟨later, rest, cause, rfl, stuck, isError⟩
        · exact .inl ⟨isOk, rfl⟩
        · exact .inr ⟨later, rest, cause, rfl,
            (FileTree.editable_eq_error_apply applied).mp stuck, isError⟩

/-- **Wrapping a directory, script by script.** If the directory cannot be listed, nothing changes,
and the fault names it. Otherwise the scripts are the regular files directly in the directory whose
names are texts that end in `.js`, in the order of their paths. Either all of them are wrapped and
given, or there is a first one that cannot be read as text and written back: the fault names it, the
scripts before it are wrapped, and it and those behind it are as they were. In each case nothing
else changes. -/
theorem wrapDirectory_cases (globalName : String) (directory : Path) (workspace : Workspace) :
    (∃ cause, workspace.files.list workspace.directory directory = .error cause ∧
      outcome (wrapDirectory globalName directory) workspace =
        (.error (.io directory cause), workspace)) ∨
    ∃ place verdict after, ∃ names : List Bytes,
      workspace.files.find workspace.directory directory = .ok (place, .directory) ∧
      (∀ name, name ∈ names ↔ (∃ stem, name = Utf8.encode (stem ++ ".js")) ∧
        ∃ content program,
          workspace.files.get? (place ++ [name]) = some (.file content program)) ∧
      (names.map fun name => directory.join ⟨name⟩).Pairwise Path.Before ∧
      outcome (wrapDirectory globalName directory) workspace = (verdict, after) ∧
      ((verdict = .ok (names.map fun name => directory.join ⟨name⟩) ∧
          Wrapped globalName place names workspace.files after.files) ∨
        ∃ done name later cause, names = done ++ name :: later ∧
          workspace.files.editable workspace.directory (directory.join ⟨name⟩) = .error cause ∧
          verdict = .error (.io (directory.join ⟨name⟩) cause) ∧
          Wrapped globalName place done workspace.files after.files ∧
          ∀ other ∈ name :: later, after.files.get? (place ++ [other]) =
            workspace.files.get? (place ++ [other])) := by
  rcases listed : scripts workspace directory with cause | found
  · exact .inl ⟨cause, scripts_eq_error_iff.mp listed, outcome_wrapDirectory_of_error listed⟩
  · obtain ⟨place, names, located, rfl, isNamed, ordered⟩ := exists_names_of_scripts listed
    have distinct := Path.nodup_of_pairwise_before ordered
    have isFile : ∀ name ∈ names, ∃ content program,
        workspace.files.get? (place ++ [name]) = some (.file content program) :=
      fun name member => ((isNamed name).mp member).2
    obtain ⟨done, verdict, after, ran, edited, ended⟩ :=
      exists_of_outcome_wrapScripts globalName (names.map fun name => directory.join ⟨name⟩)
        workspace
    have whole : outcome (wrapDirectory globalName directory) workspace =
        outcome (do
          wrapScripts globalName (names.map fun name => directory.join ⟨name⟩)
          return names.map fun name => directory.join ⟨name⟩) workspace :=
      outcome_wrapDirectory_of_scripts listed
    rcases ended with ⟨rfl, rfl⟩ | ⟨script, later, cause, split, stuck, rfl⟩
    · rw [outcome_bind_ok ran, outcome_pure] at whole
      exact .inr ⟨place, _, after, names, located, isNamed, ordered, whole,
        .inl ⟨rfl, wrapped_of_applyAll located isFile distinct edited⟩⟩
    · -- The scripts before the fault are the first of the list, by distinct names.
      rw [outcome_bind_error ran] at whole
      obtain ⟨first, rest, rfl, rfl, behind⟩ := List.map_eq_append_iff.mp split
      obtain ⟨name, others, rfl, rfl, rfl⟩ := List.map_eq_cons_iff.mp behind
      have wrapped := wrapped_of_applyAll located
        (fun name member => isFile name (List.mem_append_left _ member))
        (distinct.sublist ((List.sublist_append_left first _).map _)) edited
      refine .inr ⟨place, _, after, first ++ name :: others, located, isNamed, ordered, whole,
        .inr ⟨first, name, others, cause, rfl, stuck, rfl, wrapped, ?_⟩⟩
      intro other behind
      refine wrapped.others _ fun earlier before same => ?_
      rw [List.append_cancel_left_eq, List.singleton_inj] at same
      exact List.disjoint_of_nodup_append distinct.of_map before (same ▸ behind)

end Umd

end BundleFinish
