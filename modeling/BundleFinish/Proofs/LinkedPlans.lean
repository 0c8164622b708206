import BundleFinish.Proofs.FailedEdits
import BundleFinish.Proofs.FinishedScripts
import BundleFinish.Proofs.Resolution

/-! # Linked plans

Linking goes through the sources of a plan in order. It comes to the end of the plan, or stops at the
first source whose script cannot be edited; what stands before it is then linked as it would be
alone (`Declarations.exists_of_outcome_link`). Only scripts directly in the output directory change,
and never a declaration file (`Declarations.link_cases`). The output directory is the place of
`directory/.`, so that the empty path stands for the working directory. -/

namespace BundleFinish

/-! ## The directory that holds a name -/

namespace FileTree

variable {tree : FileTree} {start location : Location} {directory : Path} {name : Bytes}
  {node : Node}

/-- What is found under a name behind a directory stands in that directory under that name, unless
a link stands there. -/
theorem exists_place_of_find_join_name (isName : Path.isName name = true)
    (found : tree.find start (directory.join ⟨name⟩) = .ok (location, node)) :
    ∃ place, tree.find start (directory.join .here) = .ok (place, .directory) ∧
      ((∀ target, tree.get? (place ++ [name]) ≠ some (.link target)) →
        location = place ++ [name]) := by
  obtain ⟨lead, pieces, absolute, join⟩ := Path.exists_lead_of_join directory
  obtain ⟨notEmpty, -, -, noSlash⟩ := Path.isName_iff.mp isName
  obtain ⟨octets, split, starts⟩ := join name noSlash
  obtain ⟨octets', split', starts'⟩ := join [Path.dot] (by decide)
  obtain ⟨noZero, -, short, walked⟩ := locate_eq_ok_iff.mp (locate_of_find found)
  rw [split, starts] at walked
  obtain ⟨place, inside, entry⟩ := exists_of_walk_append_name isName walked
  refine ⟨place, find_of_locate (locate_eq_ok_iff.mpr ?_), entry⟩
  have named := List.length_pos_iff.mpr notEmpty
  rw [octets, List.mem_append, not_or] at noZero
  rw [octets, List.length_append] at short
  have isHere : Path.here = ⟨[Path.dot]⟩ := by decide
  rw [isHere, split', starts', octets', List.mem_append, not_or, List.length_append,
    List.length_singleton]
  exact ⟨⟨noZero.1, by decide⟩, by simp, by omega, inside⟩

/-- Edits that do not fail lead to the entries that they name, if none of these is a link. -/
theorem leadsInto_of_applyAll_here {after : FileTree} {place : Location} {edits : List Edit}
    (located : tree.find start (directory.join .here) = .ok (place, .directory))
    (noLinks : ∀ name target, tree.get? (place ++ [name]) ≠ some (.link target))
    (done : tree.applyAll start edits = .ok after) :
    tree.LeadsInto start directory place edits := by
  intro edit member name isName path location
  obtain ⟨there, content, program, text, leads, -⟩ := exists_of_mem_applyAll done member
  obtain ⟨place', located', entry⟩ := exists_place_of_find_join_name isName (path ▸ leads)
  obtain rfl : place = place' := by
    cases located.symm.trans located'
    rfl
  rw [leadsTo_iff, leads, entry (noLinks name)]
  simp [eq_comm]

end FileTree

/-! ## How far linking comes -/

namespace Declarations

variable {workspace after : Workspace} {directory source : Path} {plan : List Path}
  {pair : ArtifactPair}

/-- The output files of a source, if both of them are there. -/
def completePair? (workspace : Workspace) (directory source : Path) : Option ArtifactPair :=
  (ArtifactPair.ofSource? directory source).bind fun pair =>
    if pair.isComplete workspace then some pair else none

/-- The output files of the sources of a plan, where both of them are there. -/
def completePairs (workspace : Workspace) (directory : Path) (plan : List Path) :
    List ArtifactPair :=
  plan.filterMap (completePair? workspace directory)

/-- A source has its pair where both output files are there. -/
theorem completePair?_eq_some_iff :
    completePair? workspace directory source = some pair ↔
      ArtifactPair.ofSource? directory source = some pair ∧ pair.isComplete workspace = true := by
  unfold completePair?
  rw [Option.bind_eq_some_iff]
  constructor
  · rintro ⟨named, isNamed, chosen⟩
    by_cases complete : named.isComplete workspace = true
    · rw [if_pos complete] at chosen
      cases chosen
      exact ⟨isNamed, complete⟩
    · rw [if_neg complete] at chosen
      cases chosen
  · rintro ⟨isNamed, complete⟩
    exact ⟨pair, isNamed, if_pos complete⟩

/-- The edit for a source is the one of its pair. -/
theorem linkEdit?_eq (workspace : Workspace) (directory source : Path) :
    linkEdit? workspace directory source =
      (completePair? workspace directory source).map ArtifactPair.edit := by
  unfold linkEdit? completePair?
  rcases ArtifactPair.ofSource? directory source with _ | pair
  · rfl
  · by_cases complete : pair.isComplete workspace = true
    · simp [complete]
    · simp [complete]

/-- The edits for a plan are those of its pairs. -/
theorem linkEdits_eq (workspace : Workspace) (directory : Path) (plan : List Path) :
    linkEdits workspace directory plan =
      (completePairs workspace directory plan).map ArtifactPair.edit := by
  rw [linkEdits, completePairs, List.map_filterMap]
  exact List.filterMap_congr fun source _ => linkEdit?_eq workspace directory source

/-- The pairs of a plan are that of its first source, if it has one, and those of the others. -/
theorem completePairs_cons (workspace : Workspace) (directory source : Path) (plan : List Path) :
    completePairs workspace directory (source :: plan) =
      (completePair? workspace directory source).toList ++
        completePairs workspace directory plan := by
  rw [completePairs, List.filterMap_cons]
  rcases completePair? workspace directory source with _ | pair <;> rfl

/-- The same pairs are there in alike trees. -/
theorem completePair?_alike (alike : FileTree.Alike workspace.files after.files)
    (stayed : after.directory = workspace.directory) :
    completePair? after directory = completePair? workspace directory := by
  funext source
  unfold completePair?
  congr 1
  funext pair
  rw [pair.isComplete_alike alike stayed]

/-- Linking a source makes the edit of its pair, if both files are there, or fails where the script
cannot be edited. -/
theorem outcome_linkSource_cases (workspace : Workspace) (directory source : Path) :
    (∃ between, outcome (linkSource directory source) workspace =
        (.ok ((completePair? workspace directory source).map ArtifactPair.script), between) ∧
      workspace.files.applyAll workspace.directory
        ((completePair? workspace directory source).toList.map ArtifactPair.edit) =
          .ok between.files ∧
      between.directory = workspace.directory) ∨
    ∃ pair cause, completePair? workspace directory source = some pair ∧
      workspace.files.editable workspace.directory pair.script = .error cause ∧
      outcome (linkSource directory source) workspace =
        (.error (.io pair.script cause), workspace) := by
  unfold completePair? linkSource
  rcases ArtifactPair.ofSource? directory source with _ | pair
  · exact .inl ⟨workspace, rfl, rfl, rfl⟩
  dsimp only
  rw [outcome_bind_ok (outcome_get workspace)]
  by_cases complete : pair.isComplete workspace = true
  · rw [if_pos complete, Option.bind_some, if_pos complete, outcome_bind, outcome_linkPair]
    rcases applied : workspace.files.apply workspace.directory pair.edit with cause | files
    · exact .inr ⟨pair, cause, rfl, FileTree.apply_eq_error_iff.mp applied, rfl⟩
    · refine .inl ⟨_, rfl, ?_, rfl⟩
      rw [Option.toList_some, List.map_singleton, FileTree.applyAll_cons, applied]
      rfl
  · rw [if_neg complete, Option.bind_some, if_neg complete]
    exact .inl ⟨_, rfl, rfl, rfl⟩

/-- Linking a plan whose first source does not fail goes on from what that leaves. -/
theorem outcome_link_cons {script : Option Path} {between : Workspace}
    (first : outcome (linkSource directory source) workspace = (.ok script, between)) :
    outcome (link directory (source :: plan)) workspace =
      ((outcome (link directory plan) between).1.map (script.toList ++ ·),
        (outcome (link directory plan) between).2) := by
  rw [link, outcome_bind_ok first, outcome_bind]
  rcases outcome (link directory plan) between with ⟨fault | others, after⟩ <;> rfl

/-- Linking a plan makes the edits of its pairs in order, to the end or to the first that fails. A
source whose turn comes finds the same output files as at the beginning. -/
theorem exists_of_outcome_link (workspace : Workspace) (directory : Path) (plan : List Path) :
    ∃ linked verdict after, outcome (link directory plan) workspace = (verdict, after) ∧
      workspace.files.applyAll workspace.directory
        ((completePairs workspace directory linked).map ArtifactPair.edit) = .ok after.files ∧
      ((linked = plan ∧
          verdict = .ok ((completePairs workspace directory linked).map ArtifactPair.script)) ∨
        ∃ source later pair cause, plan = linked ++ source :: later ∧
          completePair? workspace directory source = some pair ∧
          workspace.files.editable workspace.directory pair.script = .error cause ∧
          verdict = .error (.io pair.script cause) ∧
          outcome (link directory linked) workspace =
            (.ok ((completePairs workspace directory linked).map ArtifactPair.script), after)) := by
  induction plan generalizing workspace with
  | nil => exact ⟨[], .ok [], workspace, rfl, rfl, .inl ⟨rfl, rfl⟩⟩
  | cons source plan ih =>
    rcases outcome_linkSource_cases workspace directory source with
      ⟨between, first, applied, stayed⟩ | ⟨pair, cause, complete, stuck, failed⟩
    · -- The other sources are linked behind the first, in files that differ in contents only.
      obtain ⟨linked, verdict, after, rest, edited, ended⟩ := ih between
      have alike := FileTree.alike_applyAll applied
      have samePairs : completePairs between directory linked =
          completePairs workspace directory linked := by
        rw [completePairs, completePair?_alike alike stayed, completePairs]
      rw [samePairs, stayed] at edited
      refine ⟨source :: linked, verdict.map (_ ++ ·), after,
        by rw [outcome_link_cons first, rest], ?_, ?_⟩
      · rw [completePairs_cons, List.map_append]
        exact FileTree.applyAll_append applied edited
      rw [completePairs_cons, List.map_append, Option.toList_map]
      rcases ended with ⟨rfl, rfl⟩ | ⟨later, others, pair, cause, rfl, complete, stuck, rfl, done⟩
      · exact .inl ⟨rfl, by rw [samePairs]; rfl⟩
      · rw [completePair?_alike alike stayed] at complete
        rw [stayed, FileTree.editable_eq_error_applyAll applied] at stuck
        refine .inr ⟨later, others, pair, cause, rfl, complete, stuck, rfl, ?_⟩
        rw [outcome_link_cons first, done, samePairs, Option.toList_map]
        rfl
    · refine ⟨[], .error (.io pair.script cause), workspace, ?_, rfl, .inr ⟨source, plan, pair,
        cause, rfl, complete, stuck, rfl, rfl⟩⟩
      rw [link, outcome_bind_error failed]

/-! ## What linking changes -/

/-- What linking a plan does to the files. -/
structure Linked (workspace : Workspace) (directory : Path) (plan : List Path)
    (after : FileTree) : Prop where
  /-- The script of a source whose output files are both there stands directly in the output
  directory, and can be edited. It gets a directive for each source that it belongs to. -/
  scripts : ∀ source ∈ plan, ∀ pair, completePair? workspace directory source = some pair →
    ∃ place name content program text,
      workspace.files.find workspace.directory (directory.join .here) = .ok (place, .directory) ∧
        Path.isName name = true ∧ pair.script = directory.join ⟨name⟩ ∧
        workspace.files.editable workspace.directory pair.script =
          .ok (place ++ [name], .file content program) ∧
        Utf8.decode? content = some text ∧
        after.get? (place ++ [name]) = some (.file (Utf8.encode
          ((injectReference · pair.declarationName)^[
            linkCount workspace directory plan pair.script] text)) program)
  /-- Every other location holds what it held. -/
  others : ∀ location,
    (∀ source ∈ plan, ∀ pair, completePair? workspace directory source = some pair →
      ¬workspace.files.leadsTo workspace.directory location pair.script = true) →
    after.get? location = workspace.files.get? location
  /-- No declaration file is changed. -/
  declarations : ∀ source pair, ArtifactPair.ofSource? directory source = some pair →
    ∀ location, workspace.files.leadsTo workspace.directory location pair.declaration = true →
      after.get? location = workspace.files.get? location

/-- A script and a declaration file have different names. -/
theorem script_ne_declaration (base other : String) : base ++ ".js" ≠ other ++ ".d.ts" := by
  intro same
  have isScript : ".js".toList <:+ (base ++ ".js").toList := by
    rw [String.toList_append]
    exact List.suffix_append _ _
  have isDeclaration : ".d.ts".toList <:+ (base ++ ".js").toList := by
    rw [same, String.toList_append]
    exact List.suffix_append _ _
  have both := List.suffix_of_suffix_length_le isScript isDeclaration (by decide)
  exact absurd (List.isSuffixOf_iff_suffix.mpr both) (by decide)

/-- A plan whose edits are made. -/
theorem linked_of_applyAll {files : FileTree}
    (noLinks : ∀ place,
      workspace.files.find workspace.directory (directory.join .here) = .ok (place, .directory) →
      ∀ name target, workspace.files.get? (place ++ [name]) ≠ some (.link target))
    (done : workspace.files.applyAll workspace.directory
      ((completePairs workspace directory plan).map ArtifactPair.edit) = .ok files) :
    Linked workspace directory plan files := by
  have isEdit : ∀ source ∈ plan, ∀ pair, completePair? workspace directory source = some pair →
      pair.edit ∈ (completePairs workspace directory plan).map ArtifactPair.edit :=
    fun source planned pair complete =>
      List.mem_map_of_mem (List.mem_filterMap.mpr ⟨source, planned, complete⟩)
  have others : ∀ location,
      (∀ source ∈ plan, ∀ pair, completePair? workspace directory source = some pair →
        ¬workspace.files.leadsTo workspace.directory location pair.script = true) →
      files.get? location = workspace.files.get? location := by
    intro location astray
    refine FileTree.get?_applyAll_of_astray done ?_
    intro edit member
    obtain ⟨pair, isPair, rfl⟩ := List.mem_map.mp member
    obtain ⟨source, planned, complete⟩ := List.mem_filterMap.mp isPair
    exact astray source planned pair complete
  refine ⟨?_, others, ?_⟩
  · intro source planned pair complete
    -- No link stands under its name, so the script is the entry of the output directory.
    obtain ⟨named, -⟩ := completePair?_eq_some_iff.mp complete
    obtain ⟨base, -, noSlash, rfl⟩ := ArtifactPair.ofSource?_eq_some_iff.mp named
    have isName := ArtifactPair.isName_script noSlash
    obtain ⟨there, content, program, text, found, isText⟩ :=
      FileTree.exists_editable_of_mem_applyAll done (isEdit source planned _ complete)
    obtain ⟨leads, -⟩ := FileTree.editable_eq_ok_iff.mp found
    obtain ⟨place, located, entry⟩ := FileTree.exists_place_of_find_join_name isName leads
    obtain rfl := entry (noLinks place located _)
    have into := FileTree.leadsInto_of_applyAll_here located (noLinks place located) done
    refine ⟨place, _, content, program, text, located, isName, rfl, found, isText, ?_⟩
    rw [← linkEdits_eq] at done into
    rw [FileTree.get?_applyAll done, FileTree.get?_of_find leads, Option.map_some,
      changesAt_linkEdits into isName, Node.rewritten_text _ isText, foldl_replicate_change,
      ArtifactPair.declarationName_eq noSlash]
  · intro source pair named location declares
    refine others location fun other planned linked complete scripts => ?_
    -- Both would stand in one directory, under one name.
    obtain ⟨named', -⟩ := completePair?_eq_some_iff.mp complete
    obtain ⟨base, -, noSlash, rfl⟩ := ArtifactPair.ofSource?_eq_some_iff.mp named
    obtain ⟨base', -, noSlash', rfl⟩ := ArtifactPair.ofSource?_eq_some_iff.mp named'
    obtain ⟨node, found⟩ := FileTree.leadsTo_iff.mp declares
    obtain ⟨node', found'⟩ := FileTree.leadsTo_iff.mp scripts
    obtain ⟨place, located, entry⟩ :=
      FileTree.exists_place_of_find_join_name (ArtifactPair.isName_declaration noSlash) found
    obtain ⟨place', located', entry'⟩ :=
      FileTree.exists_place_of_find_join_name (ArtifactPair.isName_script noSlash') found'
    obtain rfl : place = place' := by
      cases located.symm.trans located'
      rfl
    have same := (entry' (noLinks place located _)).symm.trans (entry (noLinks place located _))
    rw [List.append_cancel_left_eq, List.singleton_inj] at same
    exact script_ne_declaration base' base (Utf8.encode_injective same)

/-- **Linking a plan, source by source.** Let no entry of the output directory be a link. Either the
whole plan is linked, and the scripts of the sources whose output files are both there are given in
the order of the plan; or there is a first source whose script cannot be read as text and written
back, which the fault names, and what stands before it in the plan is linked as it would be alone.
What is linked are the scripts of those pairs, which stand directly in the output directory, and
nothing else changes. -/
theorem link_cases (directory : Path) (plan : List Path)
    (noLinks : ∀ place,
      workspace.files.find workspace.directory (directory.join .here) = .ok (place, .directory) →
      ∀ name target, workspace.files.get? (place ++ [name]) ≠ some (.link target)) :
    ∃ linked verdict after, outcome (link directory plan) workspace = (verdict, after) ∧
      Linked workspace directory linked after.files ∧
      ((linked = plan ∧ verdict =
          .ok ((plan.filterMap (completePair? workspace directory)).map ArtifactPair.script)) ∨
        ∃ source later pair cause, plan = linked ++ source :: later ∧
          completePair? workspace directory source = some pair ∧
          workspace.files.editable workspace.directory pair.script = .error cause ∧
          verdict = .error (.io pair.script cause) ∧
          outcome (link directory linked) workspace =
            (.ok ((linked.filterMap (completePair? workspace directory)).map ArtifactPair.script),
              after)) := by
  obtain ⟨linked, verdict, after, ran, edited, ended⟩ :=
    exists_of_outcome_link workspace directory plan
  refine ⟨linked, verdict, after, ran, linked_of_applyAll noLinks edited, ?_⟩
  rcases ended with ⟨rfl, isOk⟩ | failed
  · exact .inl ⟨rfl, isOk⟩
  · exact .inr failed

/-- An output directory with the two output files of one base name and the script of another. -/
def sampleOutput : Workspace :=
  .start (.ofNodes [([Utf8.encode "dist"], .directory),
    ([Utf8.encode "dist", Utf8.encode "a.js"], .file (Utf8.encode "exports.a = 1;\n") none),
    ([Utf8.encode "dist", Utf8.encode "a.d.ts"], .file (Utf8.encode "export {};\n") none),
    ([Utf8.encode "dist", Utf8.encode "b.js"], .file (Utf8.encode "exports.b = 1;\n") none)])
    [] [] none

/-- A plan that names the first twice and the second once. -/
def samplePlan : List Path :=
  [.ofString "src/a.ts", .ofString "src/b.ts", .ofString "src/lib/a.ts"]

/-- The first script is linked twice, and the second is passed over. -/
theorem link_cases_sample :
    ∃ after, outcome (link (.ofString "dist") samplePlan) sampleOutput =
        (.ok [.ofString "dist/a.js", .ofString "dist/a.js"], after) ∧
      after.files.get? [Utf8.encode "dist", Utf8.encode "a.js"] =
        some (.file (Utf8.encode ((injectReference · "a.d.ts")^[2] "exports.a = 1;\n")) none) ∧
      after.files.get? [Utf8.encode "dist", Utf8.encode "b.js"] =
        some (.file (Utf8.encode "exports.b = 1;\n") none) := by
  have noLinks : ∀ place name target,
      sampleOutput.files.get? (place ++ [name]) ≠ some (.link target) :=
    FileTree.get?_ne_link rfl
  obtain ⟨linked, verdict, after, ran, done, ended⟩ :=
    link_cases (.ofString "dist") samplePlan fun place _ => noLinks place
  have scripts : (outcome (link (.ofString "dist") samplePlan) sampleOutput).1 =
      .ok [.ofString "dist/a.js", .ofString "dist/a.js"] := rfl
  rw [ran] at scripts
  dsimp only at scripts
  rcases ended with ⟨rfl, -⟩ | ⟨_, _, _, _, -, -, -, failed, -⟩
  · rw [scripts] at ran
    have pair : completePair? sampleOutput (.ofString "dist") (.ofString "src/a.ts") =
        some ⟨.ofString "dist/a.js", .ofString "dist/a.d.ts"⟩ := rfl
    obtain ⟨place, name, content, program, text, -, -, -, found, isText, held⟩ :=
      done.scripts _ List.mem_cons_self _ pair
    have stands : sampleOutput.files.editable sampleOutput.directory (.ofString "dist/a.js") =
        .ok ([Utf8.encode "dist", Utf8.encode "a.js"],
          .file (Utf8.encode "exports.a = 1;\n") none) := rfl
    obtain ⟨here, isFile⟩ := Prod.mk.inj (Except.ok.inj (found.symm.trans stands))
    cases isFile
    rw [Utf8.decode?_encode] at isText
    cases isText
    rw [here] at held
    refine ⟨after, ran, held, ?_⟩
    refine done.others _ fun source planned other complete leads => ?_
    have scripts : samplePlan.filterMap (completePair? sampleOutput (.ofString "dist")) =
        [⟨.ofString "dist/a.js", .ofString "dist/a.d.ts"⟩,
          ⟨.ofString "dist/a.js", .ofString "dist/a.d.ts"⟩] := rfl
    have member := List.mem_filterMap.mpr ⟨source, planned, complete⟩
    rw [scripts] at member
    obtain rfl : other = ⟨.ofString "dist/a.js", .ofString "dist/a.d.ts"⟩ := by simpa using member
    have astray : sampleOutput.files.leadsTo sampleOutput.directory
        [Utf8.encode "dist", Utf8.encode "b.js"] (.ofString "dist/a.js") = false := rfl
    rw [astray] at leads
    cases leads
  · rw [failed] at scripts
    cases scripts

end Declarations

end BundleFinish
