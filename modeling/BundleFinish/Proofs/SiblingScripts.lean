import BundleFinish.Proofs.DeclarationPlaces
import BundleFinish.Proofs.FinishedScripts
import BundleFinish.Proofs.InterpreterLines

/-! # Scripts beside declarations

A script is linked to the declaration of its base name directly in the output directory, while the
declaration of a source is emitted below the output directory as the source is below the root. The
script beside a declaration is therefore linked when the source is placed directly, and left alone
when it is not. -/

namespace BundleFinish

/-! ## The directive of a script -/

namespace Declarations

open Text

/-- A script has the directive for a declaration file on its first line, or on the line behind its
interpreter line. -/
def CarriesDirective (text declaration : String) : Prop :=
  (referenceDirective declaration).toList ++ ['\n'] <+: (splitShebang text.toList).2

instance (text declaration : String) : Decidable (CarriesDirective text declaration) :=
  inferInstanceAs (Decidable (_ <+: _))

/-- An injection puts the directive where a script has it. -/
theorem carriesDirective_injectReference (text declaration : String) :
    CarriesDirective (injectReference text declaration) declaration := by
  obtain ⟨shown, rest, split⟩ := exists_interpreterSplit text.toList
  have below := (interpreterSplit_injectReference split declaration).eq_splitShebang.2
  rw [CarriesDirective, ← below]
  exact ⟨rest, by rw [List.append_assoc]; rfl⟩

/-! ## Linking the script beside a declaration -/

open Build (Context Progress)

variable {emitter : Emitter} {context : Context} {start final : Progress} {emitted : Emitted}
  {checked : Workspace} {source : Path}

/-- A stage comes to its end in a build without errors, behind a type-checker that did its work to
the end and left a workspace. -/
structure Emitter.Completes (emitter : Emitter) (context : Context) (start : Progress)
    (emitted : Emitted) (checked : Workspace) (final : Progress) : Prop where
  clean : start.result.hasErrors = false
  calls : emitter.Calls context start.workspace (.ok emitted) checked
  done : outcome (emitter.run context) start = (.ok (), final)

/-- Where the declaration of a source is there behind the type-checker, and the script beside it is
a text, that script carries the directive for the declaration in the end. -/
def SiblingIsLinked (options : Options) (source : Path) (checked final : Workspace) : Prop :=
  ∀ base text, ArtifactPair.baseName? source = some base →
    checked.exists? (options.declarationPath source) = true →
    checked.files.readText checked.directory (options.siblingScript source) = .ok text →
    ∃ linked, final.files.readText final.directory (options.siblingScript source) = .ok linked ∧
      CarriesDirective linked (base ++ ".d.ts")

/-- No other script of a plan, with both output files of its source there, leads where a script
leads. -/
def IsUnaliased (workspace : Workspace) (directory : Path) (plan : List Path) (script : Path) :
    Prop :=
  ∀ source ∈ plan, ∀ pair, ArtifactPair.ofSource? directory source = some pair →
    pair.isComplete workspace = true → pair.script ≠ script → ∀ location,
      workspace.files.leadsTo workspace.directory location script = true →
      ¬workspace.files.leadsTo workspace.directory location pair.script = true

variable {directory : Path} {plan : List Path} {pair : ArtifactPair} {base text : String}

/-- Where the script of a pair leads and no other script of the plan does, all edits for the plan
are for the base name of the pair. -/
theorem change_eq_of_isUnaliased (named : ArtifactPair.baseName? source = some base)
    (paired : ArtifactPair.ofSource? directory source = some pair)
    (alone : IsUnaliased checked directory plan pair.script) {location : Location}
    (arrives : checked.files.leadsTo checked.directory location pair.script = true)
    {edit : Edit} (member : edit ∈ linkEdits checked directory plan)
    (leadsHere : checked.files.leadsTo checked.directory location edit.path = true) :
    edit.change = (injectReference · (base ++ ".d.ts")) := by
  obtain ⟨other, planned, otherPair, stem, otherPaired, complete, noSlash, script, path, change⟩ :=
    exists_of_mem_linkEdits member
  obtain ⟨base', named', noSlash', rfl⟩ := ArtifactPair.ofSource?_eq_some_iff.mp paired
  obtain rfl : base' = base := Option.some.inj (named'.symm.trans named)
  have sameScript : otherPair.script = directory.joinText (base' ++ ".js") := by
    by_contra differs
    rw [path] at leadsHere
    exact alone other planned otherPair otherPaired complete differs location arrives leadsHere
  have names := Path.join_name_injective directory (ArtifactPair.isName_script noSlash)
    (ArtifactPair.isName_script noSlash') (script.symm.trans sameScript)
  rw [Utf8.encode_append, Utf8.encode_append, List.append_cancel_right_eq] at names
  rw [change, Utf8.encode_injective names]

/-- A run of linking edits leaves the directive of a source in its script, if no other script of the
plan leads there. -/
theorem exists_of_applyAll_linkEdits {after : FileTree}
    (applied : checked.files.applyAll checked.directory (linkEdits checked directory plan) =
      .ok after)
    (planned : source ∈ plan) (named : ArtifactPair.baseName? source = some base)
    (paired : ArtifactPair.ofSource? directory source = some pair)
    (complete : pair.isComplete checked = true)
    (alone : IsUnaliased checked directory plan pair.script)
    (read : checked.files.readText checked.directory pair.script = .ok text) :
    ∃ linked, after.readText checked.directory pair.script = .ok linked ∧
      CarriesDirective linked (base ++ ".d.ts") := by
  obtain ⟨location, arrives, isRead⟩ := FileTree.exists_readText_applyAll applied read
  have same : ∀ edit ∈ linkEdits checked directory plan,
      checked.files.leadsTo checked.directory location edit.path = true →
        edit.change = (injectReference · (base ++ ".d.ts")) :=
    fun edit member leadsHere =>
      change_eq_of_isUnaliased named paired alone arrives member leadsHere
  have member : pair.edit ∈ linkEdits checked directory plan :=
    List.mem_filterMap.mpr ⟨source, planned, by
      rw [linkEdit?, paired, Option.bind_some, if_pos complete]⟩
  -- The source itself is linked, so at least one directive is put in, and the last one is on top.
  have some : 0 < (linkEdits checked directory plan).countP
      fun edit => checked.files.leadsTo checked.directory location edit.path :=
    List.countP_pos_iff.mpr ⟨pair.edit, member, arrives⟩
  obtain ⟨count, isCount⟩ := Nat.exists_eq_add_one.mpr some
  rw [FileTree.changesAt_eq_replicate same, isCount, foldl_replicate_change,
    Function.iterate_succ_apply'] at isRead
  exact ⟨_, isRead, carriesDirective_injectReference _ _⟩

/-- A run of linking edits links the script beside the declaration of a source that is placed
directly, if no other script of the plan leads there. -/
theorem siblingIsLinked_of_applyAll {options : Options} {root out : Location} {final : Workspace}
    (isRoot : options.rootDir = root.path) (areRoot : root.AreNames)
    (isOut : options.outDir = out.path) (areOut : out.AreNames)
    (applied : checked.files.applyAll checked.directory (linkEdits checked options.outDir plan) =
      .ok final.files)
    (stayed : final.directory = checked.directory) (planned : source ∈ plan)
    (direct : PlacedDirectly options.rootDir source)
    (alone : IsUnaliased checked options.outDir plan (options.siblingScript source)) :
    SiblingIsLinked options source checked final := by
  intro base text named declared read
  obtain ⟨declaration, script⟩ :=
    Options.declarationPath_of_placedDirectly isRoot areRoot isOut areOut direct named
  have paired : ArtifactPair.ofSource? options.outDir source =
      some ⟨options.siblingScript source, options.declarationPath source⟩ := by
    rw [declaration, script, ArtifactPair.ofSource?, named, Option.map_some]
  have complete : ArtifactPair.isComplete
      ⟨options.siblingScript source, options.declarationPath source⟩ checked = true := by
    obtain ⟨location, content, program, found, -⟩ := FileTree.exists_of_readText read
    rw [ArtifactPair.isComplete, declared, Bool.and_true, Workspace.exists?, FileTree.exists?,
      found]
    rfl
  rw [stayed]
  obtain ⟨linked, isRead, carries⟩ :=
    exists_of_applyAll_linkEdits applied planned named paired complete alone read
  exact ⟨linked, isRead, carries⟩

namespace Emitter

/-- The root and the output directory of an emission are spelled as paths of locations. -/
theorem exists_locations (emitter : Emitter) (context : Context) (workspace : Workspace) :
    ∃ root out : Location, root.AreNames ∧ out.AreNames ∧
      (emitter.options context workspace.directoryPath).rootDir = root.path ∧
      (emitter.options context workspace.directoryPath).outDir = out.path := by
  have absolute := workspace.directory.isAbsolute_path
  obtain ⟨root, areRoot, isRoot⟩ :=
    context.options.exists_location_of_resolve absolute context.options.rootDir
  obtain ⟨out, areOut, isOut⟩ :=
    context.options.exists_location_of_resolve absolute context.options.outDir
  exact ⟨root, out, areRoot, areOut, isRoot, isOut⟩

/-- A stage that comes to its end behind a type-checker made the edits for the plan, in the same
working directory. -/
theorem Completes.applyAll (run : emitter.Completes context start emitted checked final) :
    checked.files.applyAll checked.directory
        (linkEdits checked (emitter.options context start.workspace.directoryPath).outDir
          (context.emissionPlan start.workspace.directoryPath)) = .ok final.workspace.files ∧
      final.workspace.directory = checked.directory := by
  have kept := (Build.OutputStage.keeps_directory_stage (.declarations emitter) context).of_outcome
    run.done
  have stayed : final.workspace.directory = start.workspace.directory := kept
  exact ⟨(applyAll_of_run run.clean run.calls run.done).1,
    stayed.trans run.calls.directory_eq.symm⟩

/-- **Scripts beside declarations.** The declaration of a source goes where its base name says
exactly if the source has a file name and stands directly in the root or not below it. Let the stage
come to its end behind a type-checker that did its work to the end. Then the script beside the
declaration of such a planned source carries the directive for it, if the declaration is there, the
script is a text, and no other script of the plan leads to the same file; and a location where no
script of a complete pair of the plan leads holds what it held behind the type-checker (no two
locations share a file). -/
theorem siblings_linked (emitter : Emitter) (context : Context) (start : Progress) :
    let options := emitter.options context start.workspace.directoryPath
    let plan := context.emissionPlan start.workspace.directoryPath
    (∀ source,
      (∃ pair, ArtifactPair.ofSource? options.outDir source = some pair ∧
        pair.declaration.same (options.declarationPath source) = true) ↔
      source.fileName.isSome = true ∧ PlacedDirectly options.rootDir source) ∧
    ∀ emitted checked final, emitter.Completes context start emitted checked final →
      (∀ source ∈ plan, PlacedDirectly options.rootDir source →
        IsUnaliased checked options.outDir plan (options.siblingScript source) →
        SiblingIsLinked options source checked final.workspace) ∧
      ∀ location,
        (∀ source ∈ plan, ∀ pair, ArtifactPair.ofSource? options.outDir source = some pair →
          pair.isComplete checked = true →
          ¬checked.files.leadsTo checked.directory location pair.script = true) →
        final.workspace.files.get? location = checked.files.get? location := by
  intro options plan
  obtain ⟨root, out, areRoot, areOut, isRoot, isOut⟩ := exists_locations emitter context
    start.workspace
  refine ⟨fun source => Options.same_declarationPath_iff isRoot areRoot isOut areOut source, ?_⟩
  intro emitted checked final run
  obtain ⟨applied, stayed⟩ := run.applyAll
  refine ⟨?_, ?_⟩
  · intro source planned direct alone
    exact siblingIsLinked_of_applyAll isRoot areRoot isOut areOut applied stayed planned direct
      alone
  · intro location astray
    rw [FileTree.get?_applyAll applied, FileTree.changesAt_eq_nil, Node.rewritten_nil,
      Option.map_id, id]
    intro edit isEdit
    obtain ⟨source, planned, pair, base, paired, complete, -, -, path, -⟩ :=
      exists_of_mem_linkEdits isEdit
    rw [path]
    exact astray source planned pair paired complete

/-! ## Small packages -/

open Build.OutputStage (loaded sampleEmitter sampleChecker sampleContext sampleStart
  checkedFrom emittedFrom)

/-- A stage with the sample type-checker comes to its end where its computation does. -/
theorem completes_sample (clean : start.result.hasErrors = false)
    (planned : context.emissionPlan start.workspace.directoryPath ≠ [])
    (called :
      let directory := start.workspace.directoryPath
      let plan := context.emissionPlan directory
      outcome (callChecker sampleChecker plan (sampleEmitter.options context directory))
        (start.workspace.logged .debug logTarget
          s!"[fob-dts] emitting {plan.length} declaration(s) with {sampleChecker.name}") =
        (.ok (.ok ⟨[], []⟩), checkedFrom context start))
    (done : outcome (sampleEmitter.run context) start = (.ok (), emittedFrom context start)) :
    sampleEmitter.Completes context start ⟨[], []⟩ (checkedFrom context start)
      (emittedFrom context start) :=
  ⟨clean, ⟨planned, sampleChecker, start.workspace, rfl, called⟩, done⟩

/-- The script beside the declaration of the sample carries its directive. -/
theorem siblings_linked_sample :
    ∃ linked, (emittedFrom sampleContext sampleStart).workspace.files.readText []
        (.ofString "/dist/a.js") = .ok linked ∧
      CarriesDirective linked "a.d.ts" := by
  have run : sampleEmitter.Completes sampleContext sampleStart ⟨[], []⟩
      (checkedFrom sampleContext sampleStart) (emittedFrom sampleContext sampleStart) :=
    completes_sample rfl (by decide +kernel) rfl rfl
  obtain ⟨-, whole⟩ := siblings_linked sampleEmitter sampleContext sampleStart
  obtain ⟨siblings, -⟩ := whole _ _ _ run
  have direct : PlacedDirectly
      (sampleEmitter.options sampleContext sampleStart.workspace.directoryPath).rootDir
      (.ofString "/src/a.ts") := .inl ⟨Utf8.encode "a.ts", rfl⟩
  have alone : IsUnaliased (checkedFrom sampleContext sampleStart) (.ofString "/dist")
      [.ofString "/src/a.ts"] (.ofString "/dist/a.js") := by
    intro source planned pair paired complete differs
    rw [List.mem_singleton] at planned
    cases planned
    cases paired
    exact absurd rfl differs
  exact siblings (.ofString "/src/a.ts") List.mem_cons_self direct alone "a" "exports.a = 1;\n"
    rfl rfl rfl

/-- A package whose source and script are in nested directories. -/
def nestedFiles : FileTree :=
  .ofNodes [([Utf8.encode "src"], .directory),
    ([Utf8.encode "src", Utf8.encode "nested"], .directory),
    ([Utf8.encode "src", Utf8.encode "nested", Utf8.encode "view.ts"],
      .file (Utf8.encode "export const value = 1;\n") none),
    ([Utf8.encode "dist"], .directory),
    ([Utf8.encode "dist", Utf8.encode "nested"], .directory),
    ([Utf8.encode "dist", Utf8.encode "nested", Utf8.encode "view.js"],
      .file (Utf8.encode "exports.value = 1;\n") none)]

/-- A build of the nested package. -/
def nestedContext : Context := loaded ["src/nested/view.ts"]

/-- The build of the nested package before its stages. -/
def nestedStart : Progress := ⟨.start nestedFiles [] [] none, .empty⟩

/-- A package with two sources, in which the script of the first is a link to that of the second. -/
def aliasedFiles : FileTree :=
  .ofNodes [([Utf8.encode "src"], .directory),
    ([Utf8.encode "src", Utf8.encode "a.ts"], .file (Utf8.encode "export const a = 1;\n") none),
    ([Utf8.encode "src", Utf8.encode "b.ts"], .file (Utf8.encode "export const b = 1;\n") none),
    ([Utf8.encode "dist"], .directory),
    ([Utf8.encode "dist", Utf8.encode "a.js"], .link (.ofString "b.js")),
    ([Utf8.encode "dist", Utf8.encode "b.js"], .file (Utf8.encode "exports.b = 1;\n") none)]

/-- A build of the package with a link. -/
def aliasedContext : Context := loaded ["src/a.ts", "src/b.ts"]

/-- The build of the package with a link before its stages. -/
def aliasedStart : Progress := ⟨.start aliasedFiles [] [] none, .empty⟩

/-- Not every script beside a declaration is linked: not that of a source in a nested directory, and
not that of a source in the root where another script of the plan leads to the same file. -/
theorem not_forall_siblingIsLinked :
    (¬∀ (emitter : Emitter) (context : Context) (start : Progress) emitted checked final,
      emitter.Completes context start emitted checked final →
      ∀ source ∈ context.emissionPlan start.workspace.directoryPath,
        SiblingIsLinked (emitter.options context start.workspace.directoryPath) source checked
          final.workspace) ∧
    ¬∀ (emitter : Emitter) (context : Context) (start : Progress) emitted checked final,
      emitter.Completes context start emitted checked final →
      ∀ source ∈ context.emissionPlan start.workspace.directoryPath,
        PlacedDirectly (emitter.options context start.workspace.directoryPath).rootDir source →
        SiblingIsLinked (emitter.options context start.workspace.directoryPath) source checked
          final.workspace := by
  refine ⟨fun linked => ?_, fun linked => ?_⟩
  · -- The declaration is in `dist/nested`, but the script is looked for in `dist`.
    have run : sampleEmitter.Completes nestedContext nestedStart ⟨[], []⟩
        (checkedFrom nestedContext nestedStart) (emittedFrom nestedContext nestedStart) :=
      completes_sample rfl (by decide +kernel) rfl rfl
    obtain ⟨text, isRead, carries⟩ := linked _ _ _ _ _ _ run (.ofString "/src/nested/view.ts")
      List.mem_cons_self "view" "exports.value = 1;\n" rfl rfl rfl
    have held : (emittedFrom nestedContext nestedStart).workspace.files.readText []
        (.ofString "/dist/nested/view.js") = .ok "exports.value = 1;\n" := by decide +kernel
    obtain rfl : "exports.value = 1;\n" = text := Except.ok.inj (held.symm.trans isRead)
    exact absurd carries (by decide +kernel)
  · -- The script of the second source is the same file, and its directive comes on top.
    have run : sampleEmitter.Completes aliasedContext aliasedStart ⟨[], []⟩
        (checkedFrom aliasedContext aliasedStart) (emittedFrom aliasedContext aliasedStart) :=
      completes_sample rfl (by decide +kernel) rfl rfl
    obtain ⟨text, isRead, carries⟩ := linked _ _ _ _ _ _ run (.ofString "/src/a.ts")
      List.mem_cons_self (.inl ⟨Utf8.encode "a.ts", rfl⟩) "a" "exports.b = 1;\n" rfl rfl rfl
    have held : (emittedFrom aliasedContext aliasedStart).workspace.files.readText []
        (.ofString "/dist/a.js") =
          .ok (injectReference (injectReference "exports.b = 1;\n" "a.d.ts") "b.d.ts") := by
      decide +kernel
    obtain rfl := Except.ok.inj (held.symm.trans isRead)
    exact absurd carries (by decide +kernel)

end Emitter

end Declarations

end BundleFinish
