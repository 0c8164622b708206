import BundleFinish.Proofs.Pipeline
import Mathlib.Data.List.Nodup
import Mathlib.Logic.Function.Iterate

/-! # Finished scripts

When declarations are emitted and scripts wrapped, each script directly in the output directory gets
one directive for every planned source that it belongs to, and is then wrapped; nothing else in the
file tree changes behind the type-checker. -/

namespace BundleFinish

open Build (Context OutputStage Progress Work)

/-- Whether a node is a link. -/
def Node.isLink : Node → Bool
  | .link _ => true
  | .file .. | .directory => false

/-- No name leads to a link in a tree that lists none. -/
theorem FileTree.get?_ne_link {tree : FileTree}
    (none : tree.entries.all (fun entry => !entry.2.isLink) = true) (place : Location)
    (name : Bytes) (target : Path) : tree.get? (place ++ [name]) ≠ some (.link target) := by
  intro linked
  have member := (get?_eq_some_iff (append_name_ne_nil place name)).mp linked
  cases List.all_eq_true.mp none _ member

/-! ## Edits of the entries of a directory -/

namespace FileTree

variable {tree after : FileTree} {start place location : Location} {directory : Path}
  {edits : List Edit}

/-- Behind a directory at a place, edits lead to the entries that they name. -/
def LeadsInto (tree : FileTree) (start : Location) (directory : Path) (place : Location)
    (edits : List Edit) : Prop :=
  ∀ edit ∈ edits, ∀ name, Path.isName name = true → edit.path = directory.join ⟨name⟩ →
    ∀ location, tree.leadsTo start location edit.path = true ↔ location = place ++ [name]

/-- Edits that do not fail lead to the entries that they name, if none of these is a link. -/
theorem leadsInto_of_applyAll (found : tree.find start directory = .ok (place, .directory))
    (noLinks : ∀ name target, tree.get? (place ++ [name]) ≠ some (.link target))
    (done : tree.applyAll start edits = .ok after) :
    tree.LeadsInto start directory place edits := by
  intro edit member name isName path location
  obtain ⟨there, content, program, text, leads, -⟩ := exists_of_mem_applyAll done member
  have entry := find_join_name isName found (noLinks name) (path ▸ leads)
  rw [leadsTo_iff, leads]
  constructor
  · rintro ⟨node, same⟩
    cases same
    exact entry.1
  · rintro rfl
    exact ⟨.file content program, by rw [entry.1]⟩

/-- The first edits of a list lead to the entries that they name, if all do. -/
theorem LeadsInto.left {others : List Edit}
    (leads : tree.LeadsInto start directory place (edits ++ others)) :
    tree.LeadsInto start directory place edits :=
  fun edit member => leads edit (List.mem_append_left others member)

/-- The last edits of a list lead to the entries that they name, if all do. -/
theorem LeadsInto.right {others : List Edit}
    (leads : tree.LeadsInto start directory place (edits ++ others)) :
    tree.LeadsInto start directory place others :=
  fun edit member => leads edit (List.mem_append_right edits member)

/-- Where all edits that lead to a location make one change, it is made once for each of them. -/
theorem changesAt_eq_replicate {change : String → String}
    (same : ∀ edit ∈ edits, tree.leadsTo start location edit.path = true → edit.change = change) :
    tree.changesAt start location edits =
      List.replicate (edits.countP fun edit => tree.leadsTo start location edit.path) change := by
  rw [List.eq_replicate_iff, changesAt, List.length_map, List.countP_eq_length_filter]
  refine ⟨rfl, ?_⟩
  intro made member
  obtain ⟨edit, leads, rfl⟩ := List.mem_map.mp member
  rw [List.mem_filter] at leads
  exact same edit leads.1 leads.2

/-- Where no edit leads, there is no change. -/
theorem changesAt_eq_nil
    (astray : ∀ edit ∈ edits, ¬tree.leadsTo start location edit.path = true) :
    tree.changesAt start location edits = [] := by
  rw [changesAt, List.map_eq_nil_iff, List.filter_eq_nil_iff]
  exact astray

/-- A run of edits that all lead elsewhere leaves a location as it was. -/
theorem get?_applyAll_of_astray {after : FileTree}
    (done : tree.applyAll start edits = .ok after)
    (astray : ∀ edit ∈ edits, ¬tree.leadsTo start location edit.path = true) :
    after.get? location = tree.get? location := by
  rw [get?_applyAll done, changesAt_eq_nil astray, Node.rewritten_nil, Option.map_id, id]

end FileTree

/-- A change that is made several times. -/
theorem foldl_replicate_change (change : String → String) (count : Nat) (text : String) :
    (List.replicate count change).foldl (fun text change => change text) text =
      change^[count] text := by
  induction count generalizing text with
  | zero => rfl
  | succ count ih => rw [List.replicate_succ, List.foldl_cons, ih, Function.iterate_succ_apply]

/-! ## The directives of a script -/

namespace Declarations

variable {workspace : Workspace} {directory : Path} {plan : List Path}

/-- How many sources of a plan have a script as theirs, with both of their output files there. -/
def linkCount (workspace : Workspace) (directory : Path) (plan : List Path) (script : Path) : Nat :=
  plan.countP fun source =>
    (ArtifactPair.ofSource? directory source).any fun pair =>
      pair.script = script ∧ pair.isComplete workspace

/-- The edit for a source goes to the script of its base name. -/
theorem exists_of_linkEdit? {source : Path} {edit : Edit}
    (linked : linkEdit? workspace directory source = some edit) :
    ∃ pair base, ArtifactPair.ofSource? directory source = some pair ∧
      pair.isComplete workspace = true ∧ '/' ∉ base.toList ∧
      pair.script = directory.joinText (base ++ ".js") ∧ edit.path = pair.script ∧
      edit.change = (injectReference · (base ++ ".d.ts")) := by
  unfold linkEdit? at linked
  obtain ⟨pair, named, chosen⟩ := Option.bind_eq_some_iff.mp linked
  by_cases complete : pair.isComplete workspace = true
  · rw [if_pos complete] at chosen
    obtain rfl := Option.some.inj chosen
    obtain ⟨base, -, noSlash, rfl⟩ := ArtifactPair.ofSource?_eq_some_iff.mp named
    refine ⟨_, base, named, complete, noSlash, rfl, rfl, ?_⟩
    rw [ArtifactPair.edit, ArtifactPair.declarationName_eq noSlash]
  · rw [if_neg complete] at chosen
    cases chosen

/-- The edits for a plan go to the scripts of its sources. -/
theorem exists_of_mem_linkEdits {edit : Edit} (member : edit ∈ linkEdits workspace directory plan) :
    ∃ source ∈ plan, ∃ pair base, ArtifactPair.ofSource? directory source = some pair ∧
      pair.isComplete workspace = true ∧ '/' ∉ base.toList ∧
      pair.script = directory.joinText (base ++ ".js") ∧ edit.path = pair.script ∧
      edit.change = (injectReference · (base ++ ".d.ts")) := by
  obtain ⟨source, planned, linked⟩ := List.mem_filterMap.mp member
  exact ⟨source, planned, exists_of_linkEdit? linked⟩

variable {tree : FileTree} {start place : Location} {stem : String}

/-- As many edits for a plan lead to a script as sources link it. -/
theorem countP_linkEdits
    (leads : tree.LeadsInto start directory place (linkEdits workspace directory plan))
    (isName : Path.isName (Utf8.encode (stem ++ ".js")) = true) :
    ((linkEdits workspace directory plan).countP fun edit =>
        tree.leadsTo start (place ++ [Utf8.encode (stem ++ ".js")]) edit.path) =
      linkCount workspace directory plan (directory.joinText (stem ++ ".js")) := by
  -- Both sides count sources, so it is enough that they agree on each of them.
  unfold linkCount
  rw [linkEdits, List.countP_filterMap]
  refine List.countP_congr fun source planned => ?_
  rcases linked : linkEdit? workspace directory source with _ | edit
  · rw [Option.map_none, Option.getD_none]
    rcases named : ArtifactPair.ofSource? directory source with _ | pair
    · simp
    · have incomplete : ¬pair.isComplete workspace = true := by
        intro complete
        rw [linkEdit?, named, Option.bind_some, if_pos complete] at linked
        cases linked
      simp [incomplete]
  · obtain ⟨pair, base, named, complete, noSlash, script, path, -⟩ := exists_of_linkEdit? linked
    have isScript := ArtifactPair.isName_script noSlash
    have arrives := leads edit (List.mem_filterMap.mpr ⟨source, planned, linked⟩) _ isScript
      (path.trans script) (place ++ [Utf8.encode (stem ++ ".js")])
    rw [Option.map_some, Option.getD_some, named, arrives, List.append_cancel_left_eq,
      List.singleton_inj, Option.any_some, decide_eq_true_eq, script]
    constructor
    · intro same
      exact ⟨by rw [Path.joinText, Path.joinText, Path.ofString, Path.ofString, same], complete⟩
    · rintro ⟨same, -⟩
      exact Path.join_name_injective directory isName isScript same.symm

/-- The changes of the edits for a plan that lead to a script. -/
theorem changesAt_linkEdits
    (leads : tree.LeadsInto start directory place (linkEdits workspace directory plan))
    (isName : Path.isName (Utf8.encode (stem ++ ".js")) = true) :
    tree.changesAt start (place ++ [Utf8.encode (stem ++ ".js")])
        (linkEdits workspace directory plan) =
      List.replicate (linkCount workspace directory plan (directory.joinText (stem ++ ".js")))
        (injectReference · (stem ++ ".d.ts")) := by
  rw [FileTree.changesAt_eq_replicate, countP_linkEdits leads isName]
  intro edit member arrives
  obtain ⟨source, -, pair, base, -, -, noSlash, script, path, change⟩ :=
    exists_of_mem_linkEdits member
  rw [leads edit member _ (ArtifactPair.isName_script noSlash) (path.trans script),
    List.append_cancel_left_eq, List.singleton_inj, Utf8.encode_append, Utf8.encode_append,
    List.append_cancel_right_eq] at arrives
  rw [change, Utf8.encode_injective arrives]

end Declarations

/-! ## The wrapper of a script -/

namespace Umd

/-- The names of scripts are those that end in `.js`. -/
theorem isWrappable_iff {name : Bytes} (isName : Path.isName name = true) :
    isWrappable ⟨name⟩ = true ↔ ∃ stem, name = Utf8.encode (stem ++ ".js") := by
  unfold isWrappable
  rw [Path.fileName_of_isName isName, Option.bind_some]
  constructor
  · intro wrappable
    rcases decoded : Utf8.decode? name with _ | text
    · rw [decoded] at wrappable
      cases wrappable
    · rw [decoded] at wrappable
      obtain ⟨ends, -⟩ := Bool.and_eq_true_iff.mp wrappable
      obtain ⟨stem, text_eq⟩ := List.isSuffixOf_iff_suffix.mp ends
      refine ⟨String.ofList stem, ?_⟩
      rw [Utf8.decode?_eq_some_iff.mp decoded]
      congr 1
      rw [← String.toList_inj, String.toList_append, String.toList_ofList, text_eq]
  · rintro ⟨stem, rfl⟩
    rw [Utf8.decode?_encode]
    have ends : ".js".toList <:+ (stem ++ ".js").toList := by
      rw [String.toList_append]
      exact List.suffix_append _ _
    -- A name cannot end in both, as neither ending is one of the other.
    have noMap : ¬".js.map".toList <:+ (stem ++ ".js").toList := by
      intro endsMap
      have both := List.suffix_of_suffix_length_le ends endsMap (by decide)
      exact absurd (List.isSuffixOf_iff_suffix.mpr both) (by decide)
    rw [Bool.and_eq_true_iff, Bool.not_eq_true', ← Bool.not_eq_true, List.isSuffixOf_iff_suffix,
      List.isSuffixOf_iff_suffix]
    exact ⟨ends, noMap⟩

variable {workspace : Workspace} {directory : Path} {found : List Path} {place : Location}

/-- The scripts of a directory at a place. -/
theorem mem_scripts_iff (listed : scripts workspace directory = .ok found)
    (located : workspace.files.find workspace.directory directory = .ok (place, .directory))
    {script : Path} :
    script ∈ found ↔ ∃ name, isWrappable ⟨name⟩ = true ∧
      (∃ content program, workspace.files.get? (place ++ [name]) = some (.file content program)) ∧
      script = directory.join ⟨name⟩ := by
  obtain ⟨there, located', perm⟩ := scripts_eq_ok listed
  obtain rfl : there = place := by
    rw [located] at located'
    cases located'
    rfl
  rw [perm.mem_iff, List.mem_map]
  constructor
  · rintro ⟨name, isNamed, rfl⟩
    obtain ⟨wrappable, stands⟩ := mem_scriptNames_iff.mp isNamed
    exact ⟨name, wrappable, stands, rfl⟩
  · rintro ⟨name, wrappable, stands, rfl⟩
    exact ⟨name, mem_scriptNames_iff.mpr ⟨wrappable, stands⟩, rfl⟩

/-- Each script of a directory is listed once. -/
theorem nodup_scripts (listed : scripts workspace directory = .ok found) : found.Nodup := by
  obtain ⟨place, -, perm⟩ := scripts_eq_ok listed
  have isName : ∀ name ∈ scriptNames workspace.files place, Path.isName name = true := by
    intro name isNamed
    obtain ⟨-, content, program, stands⟩ := mem_scriptNames_iff.mp isNamed
    exact FileTree.isName_of_mem_children (FileTree.mem_children_iff.mpr stands)
  have distinct : (scriptNames workspace.files place).Nodup :=
    (FileTree.nodup_children workspace.files place).sublist (List.filter_sublist.map _)
  rw [perm.nodup_iff]
  exact distinct.map_on fun a memberA b memberB same =>
    Path.join_name_injective directory (isName a memberA) (isName b memberB) same

/-- The change of the edits for different scripts that lead to one of them. -/
theorem changesAt_wrapEdits {tree : FileTree} {start : Location} {globalName : String}
    {name : Bytes} (leads : tree.LeadsInto start directory place (found.map (wrapEdit globalName)))
    (distinct : found.Nodup)
    (named : ∀ script ∈ found, ∃ name, Path.isName name = true ∧ script = directory.join ⟨name⟩)
    (isName : Path.isName name = true) (member : directory.join ⟨name⟩ ∈ found) :
    tree.changesAt start (place ++ [name]) (found.map (wrapEdit globalName)) =
      [(wrap · globalName)] := by
  have once : (found.map (wrapEdit globalName)).countP
      (fun edit => tree.leadsTo start (place ++ [name]) edit.path) = 1 := by
    rw [List.countP_map, ← List.count_eq_one_of_mem distinct member, List.count]
    refine List.countP_congr fun script isListed => ?_
    obtain ⟨other, isOther, rfl⟩ := named script isListed
    rw [Function.comp_apply, leads _ (List.mem_map_of_mem isListed) other isOther rfl,
      List.append_cancel_left_eq, List.singleton_inj, beq_iff_eq]
    constructor
    · rintro rfl
      rfl
    · exact fun same => Path.join_name_injective directory isName isOther same.symm
  have same : ∀ edit ∈ found.map (wrapEdit globalName),
      tree.leadsTo start (place ++ [name]) edit.path = true →
        edit.change = (wrap · globalName) := by
    intro edit isEdit _
    obtain ⟨script, -, rfl⟩ := List.mem_map.mp isEdit
    rfl
  rw [FileTree.changesAt_eq_replicate same, once, List.replicate_one]

end Umd

/-! ## Declarations, then wrapping -/

namespace Build.OutputStage

open Declarations

variable {emitter : Emitter} {globalName : String} {context : Context} {start final : Progress}
  {emitted : Emitted} {checked : Workspace}

/-- What the two stages do to the files behind the type-checker: the edits for the plan, and then
those for the scripts that are listed. -/
theorem exists_applyAll_of_runAll (clean : start.result.errors = [])
    (calls : emitter.Calls context (emitter.stage.announced start).workspace (.ok emitted) checked)
    (noErrors : ∀ diagnostic ∈ emitted.diagnostics, diagnostic.isError = false)
    (done : outcome (runAll context [declarations emitter, wrapping globalName]) start =
      (.ok (), final)) :
    ∃ between found, FileTree.Alike checked.files between.files ∧
      between.directory = checked.directory ∧
      Umd.scripts between (context.options.resolvedOutDir start.workspace.directoryPath) =
        .ok found ∧
      checked.files.applyAll checked.directory
        (linkEdits checked (context.options.resolvedOutDir start.workspace.directoryPath)
            (context.emissionPlan start.workspace.directoryPath) ++
          found.map (Umd.wrapEdit globalName)) = .ok final.workspace.files := by
  rw [outcome_runAll_cons] at done
  obtain ⟨_, between, first, rest⟩ := exists_of_outcome_bind_ok done
  rw [outcome_runAll_cons] at rest
  obtain ⟨_, last, second, ended⟩ := exists_of_outcome_bind_ok rest
  cases ended
  have cleanStart : (emitter.stage.announced start).result.hasErrors = false := by
    rw [Stage.announced, Progress.result_withLines, Result.hasErrors, clean]
    rfl
  obtain ⟨linked, result⟩ := Emitter.applyAll_of_run cleanStart calls first
  -- Nothing of an error level was reported, so the second stage does its work as well.
  have cleanBetween : ((Umd.stage globalName).announced between).result.hasErrors = false := by
    rw [Stage.announced, Progress.result_withLines, Result.hasErrors, result,
      Emitter.errors_reported noErrors]
    exact cleanStart
  have kept := (keeps_directory_stage (declarations emitter) context).of_outcome first
  have stayed : between.workspace.directory = start.workspace.directory := kept
  have placed : checked.directory = start.workspace.directory := calls.directory_eq
  obtain ⟨found, listed, wrapped⟩ := Umd.applyAll_of_run cleanBetween second
  refine ⟨((Umd.stage globalName).announced between).workspace, found,
    FileTree.alike_applyAll linked, stayed.trans placed.symm, ?_, ?_⟩
  · have same : ((Umd.stage globalName).announced between).workspace.directoryPath =
        start.workspace.directoryPath := congrArg Location.path stayed
    rw [same] at listed
    exact listed
  · refine FileTree.applyAll_append linked ?_
    rw [placed, ← stayed]
    exact wrapped

/-- The edits of both stages lead to locations with the names of scripts. -/
theorem exists_stem_of_leadsTo {directory : Path} {plan found : List Path} {edit : Edit}
    {between : Workspace} {place location : BundleFinish.Location}
    (leads : checked.files.LeadsInto checked.directory directory place
      (linkEdits checked directory plan ++ found.map (Umd.wrapEdit globalName)))
    (listed : Umd.scripts between directory = .ok found)
    (member : edit ∈ linkEdits checked directory plan ++ found.map (Umd.wrapEdit globalName))
    (leadsHere : checked.files.leadsTo checked.directory location edit.path = true) :
    ∃ stem, location = place ++ [Utf8.encode (stem ++ ".js")] := by
  rcases List.mem_append.mp member with link | wrap
  · obtain ⟨source, -, pair, base, -, -, noSlash, script, path, -⟩ := exists_of_mem_linkEdits link
    have isScript := ArtifactPair.isName_script noSlash
    exact ⟨base, (leads edit member _ isScript (path.trans script) location).mp leadsHere⟩
  · obtain ⟨script, isListed, rfl⟩ := List.mem_map.mp wrap
    obtain ⟨there, located, -⟩ := Umd.scripts_eq_ok listed
    obtain ⟨name, wrappable, ⟨content, program, stands⟩, same⟩ :=
      (Umd.mem_scripts_iff listed located).mp isListed
    have isName := FileTree.isName_of_mem_children (FileTree.mem_children_iff.mpr stands)
    obtain ⟨stem, rfl⟩ := (Umd.isWrappable_iff isName).mp wrappable
    exact ⟨stem, (leads _ member _ isName same location).mp leadsHere⟩

/-- **Declarations, then wrapping.** In a build without errors, let the type-checker do its work to
the end without an error among its diagnostics, and let no entry of the output directory be a link
then. If the two stages come to their end, each regular file directly in the output directory whose
name ends in `.js` holds the wrapped text of what it held behind the type-checker with one directive
for each planned source that it belongs to and whose output files were both there; every other
location holds what it held behind the type-checker. -/
theorem get?_of_declarations_then_wrapping (clean : start.result.errors = [])
    (calls : emitter.Calls context (emitter.stage.announced start).workspace (.ok emitted) checked)
    (noErrors : ∀ diagnostic ∈ emitted.diagnostics, diagnostic.isError = false)
    (noLinks : ∀ place, checked.files.find checked.directory
        (context.options.resolvedOutDir start.workspace.directoryPath) = .ok (place, .directory) →
      ∀ name target, checked.files.get? (place ++ [name]) ≠ some (.link target))
    (done : outcome (runAll context [declarations emitter, wrapping globalName]) start =
      (.ok (), final)) :
    ∃ place, checked.files.find checked.directory
        (context.options.resolvedOutDir start.workspace.directoryPath) = .ok (place, .directory) ∧
      (∀ stem content program,
        checked.files.get? (place ++ [Utf8.encode (stem ++ ".js")]) =
          some (.file content program) →
        ∃ text, Utf8.decode? content = some text ∧
          final.workspace.files.get? (place ++ [Utf8.encode (stem ++ ".js")]) =
            some (.file (Utf8.encode (Umd.wrap
              ((injectReference · (stem ++ ".d.ts"))^[linkCount checked
                (context.options.resolvedOutDir start.workspace.directoryPath)
                (context.emissionPlan start.workspace.directoryPath)
                ((context.options.resolvedOutDir start.workspace.directoryPath).joinText
                  (stem ++ ".js"))] text) globalName)) program)) ∧
      ∀ location, (∀ stem content program, location = place ++ [Utf8.encode (stem ++ ".js")] →
          checked.files.get? location ≠ some (.file content program)) →
        final.workspace.files.get? location = checked.files.get? location := by
  obtain ⟨between, found, alike, stayed, listed, applied⟩ :=
    exists_applyAll_of_runAll clean calls noErrors done
  obtain ⟨place, located', -⟩ := Umd.scripts_eq_ok listed
  have located := FileTree.find_directory_alike alike.symm located'
  rw [stayed] at located
  -- Behind a directory without links, each edit leads to the entry that it names.
  have leads := FileTree.leadsInto_of_applyAll located (noLinks place located) applied
  refine ⟨place, located, ?_, ?_⟩
  · intro stem content program stands
    have isName : Path.isName (Utf8.encode (stem ++ ".js")) = true :=
      FileTree.isName_of_mem_children (FileTree.mem_children_iff.mpr stands)
    have member : (context.options.resolvedOutDir start.workspace.directoryPath).join
        ⟨Utf8.encode (stem ++ ".js")⟩ ∈ found :=
      (Umd.mem_scripts_iff listed located').mpr
        ⟨_, (Umd.isWrappable_iff isName).mpr ⟨stem, rfl⟩,
          (alike.exists_file_iff _).mp ⟨content, program, stands⟩, rfl⟩
    -- The wrapping edit did not fail, so the script was a text behind the type-checker.
    obtain ⟨there, before, runs, text, leadsThere, isText⟩ :=
      FileTree.exists_of_mem_applyAll applied
        (List.mem_append_right _ (List.mem_map_of_mem member))
    obtain ⟨-, stood⟩ := FileTree.find_join_name isName located (noLinks place located _) leadsThere
    rw [stands] at stood
    cases stood
    refine ⟨text, isText, ?_⟩
    rw [FileTree.get?_applyAll applied, stands, Option.map_some, FileTree.changesAt_append,
      changesAt_linkEdits leads.left isName,
      Umd.changesAt_wrapEdits leads.right (Umd.nodup_scripts listed)
        (fun _ => Umd.exists_of_mem_scripts listed) isName member,
      Node.rewritten_text _ isText, List.foldl_append, foldl_replicate_change, List.foldl_cons, List.foldl_nil]
  · intro location notScript
    rw [FileTree.get?_applyAll applied, FileTree.changesAt_eq_nil, Node.rewritten_nil,
      Option.map_id, id]
    intro edit member leadsHere
    obtain ⟨stem, isScript⟩ := exists_stem_of_leadsTo leads listed member leadsHere
    -- An edit that does not fail finds a file where it leads, so the location is one of a script.
    obtain ⟨there, content, program, text, found, -⟩ :=
      FileTree.exists_of_mem_applyAll applied member
    obtain ⟨node, found'⟩ := FileTree.leadsTo_iff.mp leadsHere
    rw [found] at found'
    cases found'
    exact notScript stem content program isScript (FileTree.get?_of_find found)

/-! ## A small package -/

/-- A type-checker that writes an empty declaration for each source. -/
def sampleChecker : TypeChecker where
  name := "sample"
  emit plan options := do
    plan.forM fun source =>
      (Action.writeText (options.declarationPath source) "").mapError (.io options.outDir)
    return ⟨[], []⟩

/-- An emitter with that type-checker. -/
def sampleEmitter : Emitter where
  source := .fixed sampleChecker
  target := .es2020
  module := .esNext
  declarationMap := false
  stripInternal := false
  timeoutSecs := 10

/-- A build in which all of its entry points were loaded. -/
def loaded (entries : List String) : Context where
  options := { Options.default with cwd := .root, entryPoints := entries.map .ofString }
  tracked := entries.foldl (fun tracked entry => tracked.insert (.ofString ("/" ++ entry))) .empty

/-- The workspace that the type-checker leaves. -/
def checkedFrom (context : Context) (start : Progress) : Workspace :=
  let directory := start.workspace.directoryPath
  let plan := context.emissionPlan directory
  (outcome (Emitter.callChecker sampleChecker plan (sampleEmitter.options context directory))
    (start.workspace.logged .debug Emitter.logTarget
      s!"[fob-dts] emitting {plan.length} declaration(s) with {sampleChecker.name}")).2

/-- The build behind the emission of declarations. -/
def emittedFrom (context : Context) (start : Progress) : Progress :=
  (outcome (sampleEmitter.run context) start).2

/-- A package with one source and its script. -/
def sampleFiles : FileTree :=
  .ofNodes [([Utf8.encode "src"], .directory),
    ([Utf8.encode "src", Utf8.encode "a.ts"], .file (Utf8.encode "export const a = 1;\n") none),
    ([Utf8.encode "dist"], .directory),
    ([Utf8.encode "dist", Utf8.encode "a.js"], .file (Utf8.encode "exports.a = 1;\n") none)]

/-- A build of the package. -/
def sampleContext : Context := loaded ["src/a.ts"]

/-- The build before its stages. -/
def sampleStart : Progress := ⟨.start sampleFiles [] [] none, .empty⟩

/-- The workspace behind the type-checker of the first stage. -/
def sampleChecked : Workspace :=
  checkedFrom sampleContext (sampleEmitter.stage.announced sampleStart)

/-- The build between the two stages. -/
def sampleBetween : Progress :=
  emittedFrom sampleContext (sampleEmitter.stage.announced sampleStart)

/-- The only script of the sample is listed. -/
theorem scripts_sample :
    Umd.scripts ((wrapping "Lib").stage.announced sampleBetween).workspace
      (sampleContext.options.resolvedOutDir
        ((wrapping "Lib").stage.announced sampleBetween).workspace.directoryPath) =
      .ok [.ofString "/dist/a.js"] := by
  have listed : Umd.scripts ((wrapping "Lib").stage.announced sampleBetween).workspace
      (sampleContext.options.resolvedOutDir
        ((wrapping "Lib").stage.announced sampleBetween).workspace.directoryPath) =
      .ok ([.ofString "/dist/a.js"].mergeSort Path.le) := rfl
  rw [listed, List.mergeSort_singleton]

/-- Both stages come to their end on the sample. -/
theorem exists_outcome_sample :
    ∃ final, outcome (runAll sampleContext [.declarations sampleEmitter, .wrapping "Lib"])
      sampleStart = (.ok (), final) := by
  have first : outcome ((declarations sampleEmitter).stage.run sampleContext)
      ((declarations sampleEmitter).stage.announced sampleStart) = (.ok (), sampleBetween) := rfl
  have second : (outcome ((wrapping "Lib").stage.run sampleContext)
      ((wrapping "Lib").stage.announced sampleBetween)).1 = .ok () := by
    change (outcome (Umd.run "Lib" sampleContext) _).1 = _
    rw [Umd.outcome_run_of_clean rfl, outcome_bind, Work.outcome_onWorkspace,
      Umd.outcome_wrapDirectory_of_scripts scripts_sample]
    rfl
  have ran : outcome ((wrapping "Lib").stage.run sampleContext)
      ((wrapping "Lib").stage.announced sampleBetween) = (.ok (), _) := Prod.ext second rfl
  exact ⟨_, by rw [outcome_runAll_cons, outcome_bind_ok first, outcome_runAll_cons,
    outcome_bind_ok ran, runAll_nil, outcome_pure]⟩

/-- The script of the sample gets its directive and its wrapper. -/
theorem get?_of_declarations_then_wrapping_sample :
    ∃ final, outcome (runAll sampleContext [.declarations sampleEmitter, .wrapping "Lib"])
        sampleStart = (.ok (), final) ∧
      final.workspace.files.get? [Utf8.encode "dist", Utf8.encode "a.js"] =
        some (.file (Utf8.encode
          (Umd.wrap (injectReference "exports.a = 1;\n" "a.d.ts") "Lib")) none) := by
  obtain ⟨final, done⟩ := exists_outcome_sample
  have calls : sampleEmitter.Calls sampleContext
      (sampleEmitter.stage.announced sampleStart).workspace (.ok ⟨[], []⟩) sampleChecked := ⟨by decide +kernel, sampleChecker, _, rfl, rfl⟩
  have located : sampleChecked.files.find sampleChecked.directory
      (sampleContext.options.resolvedOutDir .root) = .ok ([Utf8.encode "dist"], .directory) := rfl
  have noLinks : ∀ place name target,
      sampleChecked.files.get? (place ++ [name]) ≠ some (.link target) :=
    FileTree.get?_ne_link rfl
  obtain ⟨place, located', scripts, -⟩ := get?_of_declarations_then_wrapping rfl calls
    (fun _ none => absurd none List.not_mem_nil) (fun place _ => noLinks place) done
  obtain rfl : place = [Utf8.encode "dist"] := by
    cases located.symm.trans located'
    rfl
  obtain ⟨text, isText, held⟩ := scripts "a" (Utf8.encode "exports.a = 1;\n") none rfl
  rw [Utf8.decode?_encode] at isText
  cases isText
  exact ⟨final, done, held⟩

end Build.OutputStage

end BundleFinish
