import BundleFinish.Proofs.Artifacts
import BundleFinish.Proofs.Edits
import BundleFinish.Proofs.Footprint

/-! # Linking and wrapping as edits

Linking a plan and wrapping a directory are runs of edits: one for each source whose pair of output
files is there, and one for each script that the directory lists. A fault is always a failure to
read or write the directory or a file in it. -/

namespace BundleFinish

/-- Reading a file as text and writing it back changed is an edit; a failure names the path. -/
theorem Action.outcome_rewrite {α : Type} (path : Path) (change : String → String)
    (next : Action Fault α) (workspace : Workspace) :
    outcome (do
        let text ← (Action.readText path).mapError (.io path)
        (Action.writeText path (change text)).mapError (.io path)
        next : Action Fault α) workspace =
      match workspace.files.apply workspace.directory ⟨path, change⟩ with
      | .ok files => outcome next { workspace with files }
      | .error cause => (.error (.io path cause), workspace) := by
  have reading : outcome ((Action.readText path).mapError (.io path) : Action Fault String)
      workspace =
      ((workspace.files.readText workspace.directory path).mapError (.io path), workspace) := by
    rw [Action.outcome_mapError, Action.outcome_readText]
  rcases read : workspace.files.readText workspace.directory path with cause | text
  · rw [read] at reading
    rw [outcome_bind_error reading, FileTree.apply, read]
    rfl
  · rw [read] at reading
    rw [outcome_bind_ok reading, FileTree.apply, read, outcome_bind, Action.outcome_mapError,
      Action.outcome_writeText]
    change _ = match workspace.files.write workspace.directory path (Utf8.encode (change text)) with
      | .ok files => _
      | .error cause => _
    rcases workspace.files.write workspace.directory path (Utf8.encode (change text)) with
      cause | files <;> rfl

/-- A relation that asks for the same working directory allows every step of a stage. -/
theorem Workspace.allows_keeps_directory : Workspace.Allows (Keeps Workspace.directory) where
  files _ _ := rfl
  run _ _ _ _ := rfl
  emission _ _ := rfl
  log _ _ _ _ _ := rfl

/-! ## Wrapping -/

namespace Umd

variable {globalName : String} {workspace after : Workspace} {directory : Path}
  {found : List Path} {fault : Fault}

/-- The edit that wraps a script. -/
def wrapEdit (globalName : String) (script : Path) : Edit := ⟨script, (wrap · globalName)⟩

/-- Wrapping a script is an edit. -/
theorem outcome_wrapScript (globalName : String) (script : Path) (workspace : Workspace) :
    outcome (wrapScript globalName script) workspace =
      match workspace.files.apply workspace.directory (wrapEdit globalName script) with
      | .ok files =>
        (.ok (), { workspace with files }.logged .debug logTarget
          s!"[fob-umd] wrapped {script.display}")
      | .error cause => (.error (.io script cause), workspace) :=
  Action.outcome_rewrite script (wrap · globalName) _ workspace

/-- Wrapping scripts without a fault is a run of edits. -/
theorem applyAll_of_wrapScripts
    (done : outcome (wrapScripts globalName found) workspace = (.ok (), after)) :
    workspace.files.applyAll workspace.directory (found.map (wrapEdit globalName)) =
      .ok after.files := by
  induction found generalizing workspace with
  | nil =>
    cases done
    rfl
  | cons script others ih =>
    obtain ⟨_, between, first, rest⟩ := exists_of_outcome_bind_ok done
    rw [outcome_wrapScript] at first
    rw [List.map_cons, FileTree.applyAll_cons]
    rcases applied : workspace.files.apply workspace.directory (wrapEdit globalName script) with
      cause | files
    · rw [applied] at first
      cases first
    · rw [applied] at first
      cases first
      exact ih rest

/-- Wrapping scripts fails at one of them. -/
theorem exists_of_wrapScripts_error
    (failed : outcome (wrapScripts globalName found) workspace = (.error fault, after)) :
    ∃ script ∈ found, ∃ cause, fault = .io script cause := by
  induction found generalizing workspace with
  | nil => cases failed
  | cons script others ih =>
    rw [wrapScripts, outcome_bind, outcome_wrapScript] at failed
    rcases applied : workspace.files.apply workspace.directory (wrapEdit globalName script) with
      cause | files
    · rw [applied] at failed
      cases failed
      exact ⟨script, List.mem_cons_self, cause, rfl⟩
    · rw [applied] at failed
      obtain ⟨later, member, cause, isFault⟩ := ih failed
      exact ⟨later, List.mem_cons_of_mem script member, cause, isFault⟩

/-- The names of the scripts that a directory lists. -/
def scriptNames (tree : FileTree) (place : Location) : List Bytes :=
  ((tree.children place).filter isScript).map Prod.fst

/-- A directory lists a name as that of a script where a regular file stands under a name that ends
as scripts do. -/
theorem mem_scriptNames_iff {tree : FileTree} {place : Location} {name : Bytes} :
    name ∈ scriptNames tree place ↔
      isWrappable ⟨name⟩ = true ∧
        ∃ content program, tree.get? (place ++ [name]) = some (.file content program) := by
  unfold scriptNames
  simp only [List.mem_map, List.mem_filter]
  constructor
  · rintro ⟨⟨_, node⟩, ⟨listed, script⟩, rfl⟩
    have stands := FileTree.mem_children_iff.mp listed
    rcases node with ⟨content, program⟩ | _ | target
    · exact ⟨script, content, program, stands⟩
    · cases script
    · cases script
  · rintro ⟨script, content, program, stands⟩
    exact ⟨(name, .file content program), ⟨FileTree.mem_children_iff.mpr stands, script⟩, rfl⟩

/-- The scripts of a directory are the paths of the names that it lists, each once. -/
theorem scripts_eq_ok (listed : scripts workspace directory = .ok found) :
    ∃ place, workspace.files.find workspace.directory directory = .ok (place, .directory) ∧
      found.Perm ((scriptNames workspace.files place).map fun name => directory.join ⟨name⟩) := by
  obtain ⟨entries, isListed, rfl⟩ := exists_of_map_eq_ok listed
  obtain ⟨place, located, -, rfl⟩ := FileTree.list_eq_ok_iff.mp isListed
  refine ⟨place, located, (List.mergeSort_perm _ _).trans ?_⟩
  rw [scriptNames, List.map_map]
  exact .refl _

/-- The scripts of a directory are behind names. -/
theorem exists_of_mem_scripts (listed : scripts workspace directory = .ok found) {script : Path}
    (member : script ∈ found) :
    ∃ name, Path.isName name = true ∧ script = directory.join ⟨name⟩ := by
  obtain ⟨place, -, perm⟩ := scripts_eq_ok listed
  obtain ⟨name, isNamed, rfl⟩ := List.mem_map.mp (perm.mem_iff.mp member)
  obtain ⟨-, content, program, stands⟩ := mem_scriptNames_iff.mp isNamed
  exact ⟨name, FileTree.isName_of_mem_children (FileTree.mem_children_iff.mpr stands), rfl⟩

/-- Wrapping a directory wraps the scripts that it lists. -/
theorem outcome_wrapDirectory_of_scripts (listed : scripts workspace directory = .ok found) :
    outcome (wrapDirectory globalName directory) workspace =
      outcome (do
        wrapScripts globalName found
        return found) workspace := by
  rw [wrapDirectory, outcome_bind_ok (outcome_get workspace), listed]

/-- A directory that cannot be listed is not wrapped. -/
theorem outcome_wrapDirectory_of_error {cause : IoError}
    (unlisted : scripts workspace directory = .error cause) :
    outcome (wrapDirectory globalName directory) workspace =
      (.error (.io directory cause), workspace) := by
  rw [wrapDirectory, outcome_bind_ok (outcome_get workspace), unlisted, outcome_throw]

/-- Wrapping a directory without a fault makes the edits for the scripts that it lists. -/
theorem applyAll_of_wrapDirectory
    (done : outcome (wrapDirectory globalName directory) workspace = (.ok found, after)) :
    scripts workspace directory = .ok found ∧
      workspace.files.applyAll workspace.directory (found.map (wrapEdit globalName)) =
        .ok after.files := by
  rcases listed : scripts workspace directory with cause | scripts
  · rw [outcome_wrapDirectory_of_error listed] at done
    cases done
  · rw [outcome_wrapDirectory_of_scripts listed] at done
    obtain ⟨_, between, wrapped, same⟩ := exists_of_outcome_bind_ok done
    cases same
    exact ⟨rfl, applyAll_of_wrapScripts wrapped⟩

/-- Wrapping a directory fails at the directory or at a file in it. -/
theorem exists_of_wrapDirectory_error
    (failed : outcome (wrapDirectory globalName directory) workspace = (.error fault, after)) :
    ∃ path cause, fault = .io path cause ∧
      (path = directory ∨ ∃ name, Path.isName name = true ∧ path = directory.join ⟨name⟩) := by
  rcases listed : scripts workspace directory with cause | scripts
  · rw [outcome_wrapDirectory_of_error listed] at failed
    cases failed
    exact ⟨directory, cause, rfl, .inl rfl⟩
  · rw [outcome_wrapDirectory_of_scripts listed] at failed
    rcases wrapped : outcome (wrapScripts globalName scripts) workspace with
      ⟨cause | _, between⟩
    · rw [outcome_bind_error wrapped] at failed
      cases failed
      obtain ⟨script, member, cause, rfl⟩ := exists_of_wrapScripts_error wrapped
      exact ⟨script, cause, rfl, .inr (exists_of_mem_scripts listed member)⟩
    · rw [outcome_bind_ok wrapped] at failed
      cases failed

end Umd

/-! ## Linking -/

namespace Declarations

variable {workspace after : Workspace} {directory : Path} {plan linked : List Path} {fault : Fault}

/-- The edit that puts the directive into the script of a pair. -/
def ArtifactPair.edit (pair : ArtifactPair) : Edit :=
  ⟨pair.script, (injectReference · pair.declarationName)⟩

/-- The edit for a source, if both of its output files are there. -/
def linkEdit? (workspace : Workspace) (directory source : Path) : Option Edit :=
  (ArtifactPair.ofSource? directory source).bind fun pair =>
    if pair.isComplete workspace then some pair.edit else none

/-- The edits for a plan. -/
def linkEdits (workspace : Workspace) (directory : Path) (plan : List Path) : List Edit :=
  plan.filterMap (linkEdit? workspace directory)

/-- Linking a pair is an edit. -/
theorem outcome_linkPair (pair : ArtifactPair) (workspace : Workspace) :
    outcome (linkPair pair) workspace =
      match workspace.files.apply workspace.directory pair.edit with
      | .ok files =>
        (.ok (), { workspace with files }.logged .debug linkingLogTarget
          s!"[fob-dts] linked {pair.script.display}")
      | .error cause => (.error (.io pair.script cause), workspace) :=
  Action.outcome_rewrite pair.script (injectReference · pair.declarationName) _ workspace

/-- Linking one source without a fault makes its edit, if it has one. -/
theorem applyAll_of_linkSource {source : Path} {script : Option Path}
    (done : outcome (linkSource directory source) workspace = (.ok script, after)) :
    workspace.files.applyAll workspace.directory (linkEdit? workspace directory source).toList =
      .ok after.files := by
  unfold linkSource at done
  unfold linkEdit?
  rcases named : ArtifactPair.ofSource? directory source with _ | pair
  · rw [named] at done
    cases done
    rfl
  · rw [named] at done
    dsimp only at done
    rw [outcome_bind_ok (outcome_get workspace)] at done
    by_cases complete : pair.isComplete workspace = true
    · rw [if_pos complete] at done
      rw [Option.bind_some, if_pos complete, Option.toList_some, FileTree.applyAll_cons]
      obtain ⟨_, between, edited, same⟩ := exists_of_outcome_bind_ok done
      cases same
      rw [outcome_linkPair] at edited
      rcases applied : workspace.files.apply workspace.directory pair.edit with cause | files
      · rw [applied] at edited
        cases edited
      · rw [applied] at edited
        cases edited
        rfl
    · rw [if_neg complete] at done
      rw [Option.bind_some, if_neg complete]
      cases done
      rfl

/-- Whether the output files of a pair are there is the same in alike trees. -/
theorem ArtifactPair.isComplete_alike (pair : ArtifactPair)
    (alike : FileTree.Alike workspace.files after.files)
    (stayed : after.directory = workspace.directory) :
    pair.isComplete after = pair.isComplete workspace := by
  unfold ArtifactPair.isComplete Workspace.exists?
  rw [stayed, FileTree.exists?_alike alike, FileTree.exists?_alike alike]

/-- The edits for a plan are the same in alike trees. -/
theorem linkEdits_alike (alike : FileTree.Alike workspace.files after.files)
    (stayed : after.directory = workspace.directory) :
    linkEdits after directory plan = linkEdits workspace directory plan := by
  have complete : ∀ pair : ArtifactPair, pair.isComplete after = pair.isComplete workspace :=
    fun pair => pair.isComplete_alike alike stayed
  unfold linkEdits linkEdit?
  simp only [complete]

/-- The edits for a plan are that of its first source, if it has one, and those of the others. -/
theorem linkEdits_cons (workspace : Workspace) (directory source : Path) (plan : List Path) :
    linkEdits workspace directory (source :: plan) =
      (linkEdit? workspace directory source).toList ++ linkEdits workspace directory plan := by
  unfold linkEdits
  rcases edit : linkEdit? workspace directory source with _ | edit
  · rw [List.filterMap_cons_none edit]
    rfl
  · rw [List.filterMap_cons_some edit]
    rfl

/-- Linking a plan without a fault is a run of the edits for it. That both output files of a source
are there can be asked before the first edit. -/
theorem applyAll_of_link
    (done : outcome (link directory plan) workspace = (.ok linked, after)) :
    workspace.files.applyAll workspace.directory (linkEdits workspace directory plan) =
      .ok after.files := by
  -- Editing the first script leaves the tree alike, so the later pairs are as complete as before.
  induction plan generalizing workspace linked with
  | nil =>
    cases done
    rfl
  | cons source plan ih =>
    obtain ⟨script, between, first, further⟩ := exists_of_outcome_bind_ok done
    obtain ⟨others, last, rest, same⟩ := exists_of_outcome_bind_ok further
    cases same
    have stayed : between.directory = workspace.directory :=
      (respects_linkSource Workspace.allows_keeps_directory directory source).of_outcome first
    have applied := applyAll_of_linkSource first
    have edits : linkEdits between directory plan = linkEdits workspace directory plan :=
      linkEdits_alike (FileTree.alike_applyAll applied) stayed
    have others := ih rest
    rw [stayed, edits] at others
    rw [linkEdits_cons]
    exact FileTree.applyAll_append applied others

/-- Linking one source fails at the script of its pair, whose files are there, before anything is
done. -/
theorem exists_pair_of_linkSource_error {source : Path}
    (failed : outcome (linkSource directory source) workspace = (.error fault, after)) :
    after = workspace ∧ ∃ pair cause, ArtifactPair.ofSource? directory source = some pair ∧
      pair.isComplete workspace = true ∧ fault = .io pair.script cause := by
  unfold linkSource at failed
  rcases named : ArtifactPair.ofSource? directory source with _ | pair
  · rw [named] at failed
    cases failed
  · rw [named] at failed
    dsimp only at failed
    rw [outcome_bind_ok (outcome_get workspace)] at failed
    by_cases complete : pair.isComplete workspace = true
    · rw [if_pos complete, outcome_bind, outcome_linkPair] at failed
      rcases applied : workspace.files.apply workspace.directory pair.edit with cause | files
      · rw [applied] at failed
        cases failed
        exact ⟨rfl, pair, cause, rfl, complete, rfl⟩
      · rw [applied] at failed
        cases failed
    · rw [if_neg complete] at failed
      cases failed

/-- Linking a plan fails at the script of a pair whose files were there before. -/
theorem exists_pair_of_link_error
    (failed : outcome (link directory plan) workspace = (.error fault, after)) :
    ∃ source ∈ plan, ∃ pair cause, ArtifactPair.ofSource? directory source = some pair ∧
      pair.isComplete workspace = true ∧ fault = .io pair.script cause := by
  induction plan generalizing workspace with
  | nil => cases failed
  | cons source plan ih =>
    rw [link, outcome_bind] at failed
    rcases first : outcome (linkSource directory source) workspace with ⟨cause | script, between⟩
    · rw [first] at failed
      cases failed
      exact ⟨source, List.mem_cons_self, (exists_pair_of_linkSource_error first).2⟩
    · rw [first] at failed
      dsimp only at failed
      rw [outcome_bind] at failed
      rcases rest : outcome (link directory plan) between with ⟨cause | others, last⟩
      · rw [rest] at failed
        cases failed
        obtain ⟨later, member, pair, cause, named, complete, isFault⟩ := ih rest
        have stayed : between.directory = workspace.directory :=
          (respects_linkSource Workspace.allows_keeps_directory directory source).of_outcome first
        have alike := FileTree.alike_applyAll (applyAll_of_linkSource first)
        rw [pair.isComplete_alike alike stayed] at complete
        exact ⟨later, List.mem_cons_of_mem source member, pair, cause, named, complete, isFault⟩
      · rw [rest] at failed
        cases failed

/-- Linking a plan fails at a file in the output directory. -/
theorem exists_of_link_error
    (failed : outcome (link directory plan) workspace = (.error fault, after)) :
    ∃ name cause, Path.isName name = true ∧ fault = .io (directory.join ⟨name⟩) cause := by
  obtain ⟨source, -, pair, cause, named, -, rfl⟩ := exists_pair_of_link_error failed
  obtain ⟨base, -, noSlash, rfl⟩ := ArtifactPair.ofSource?_eq_some_iff.mp named
  exact ⟨_, cause, ArtifactPair.isName_script noSlash, rfl⟩

end Declarations

end BundleFinish
