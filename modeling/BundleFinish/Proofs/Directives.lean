import BundleFinish.Proofs.SiblingScripts

/-! # Directives of a file

The emission of declarations puts one directive line into a script for every planned source that is
linked to it. Sources with one base name, and two spellings of one source, are linked to one script,
which then gets a directive for each of them. -/

namespace BundleFinish

namespace Declarations

open Text

/-! ## Directive lines of a text -/

/-- Whether a line is a directive that names a file beside the script. -/
def isDirectiveLine (line : List Char) : Bool :=
  "/// <reference types=\"./".toList.isPrefixOf line && "\" />".toList.isSuffixOf line

/-- How many lines of a text are directives. -/
def directiveLines (text : List Char) : Nat := (text.splitOn '\n').countP isDirectiveLine

/-- The lines in front of a newline and those behind it are the lines of a text. -/
theorem directiveLines_append_newline (text rest : List Char) :
    directiveLines (text ++ '\n' :: rest) = directiveLines text + directiveLines rest := by
  rw [directiveLines, List.splitOn_append_cons_self, List.countP_append]
  rfl

@[simp] theorem directiveLines_nil : directiveLines [] = 0 := by decide

/-- An injection adds the directive lines of what is injected. -/
theorem directiveLines_injectChars (text : List Char) (declaration : String) :
    directiveLines (injectChars text declaration) =
      directiveLines text + directiveLines (referenceDirective declaration).toList := by
  obtain ⟨shown, rest, split⟩ := exists_interpreterSplit text
  rw [injectChars_eq split]
  -- Below an interpreter line, the directive comes between two lines of the text.
  cases split with
  | plain => rw [List.nil_append, directiveLines_append_newline, Nat.add_comm]
  | ended =>
    rw [List.append_assoc, List.singleton_append, directiveLines_append_newline,
      directiveLines_append_newline, directiveLines_append_newline]
    omega
  | unended =>
    rw [List.append_assoc, List.singleton_append, directiveLines_append_newline,
      directiveLines_append_newline, directiveLines_nil]
    omega

/-- An injection into a text adds the directive lines of what is injected. -/
theorem directiveLines_injectReference (text declaration : String) :
    directiveLines (injectReference text declaration).toList =
      directiveLines text.toList + directiveLines (referenceDirective declaration).toList := by
  rw [injectReference, String.toList_ofList, directiveLines_injectChars]

/-- The slashes of joined lines are those of the lines. -/
theorem count_slash_intercalate (lines : List (List Char)) :
    (['\n'].intercalate lines).count '/' = lines.flatten.count '/' := by
  induction lines with
  | nil => rfl
  | cons line others ih =>
    rcases others with _ | ⟨next, others⟩
    · simp
    · rw [List.intercalate_cons_cons, List.count_append, List.count_append, ih]
      show _ = (line ++ (next :: others).flatten).count '/'
      rw [List.count_append]
      rfl

/-- A directive line has four slashes and more. -/
theorem four_le_count_slash {line : List Char} (directive : isDirectiveLine line = true) :
    4 ≤ line.count '/' := by
  obtain ⟨starts, -⟩ := Bool.and_eq_true_iff.mp directive
  obtain ⟨rest, rfl⟩ := List.isPrefixOf_iff_prefix.mp starts
  rw [List.count_append]
  have four : "/// <reference types=\"./".toList.count '/' = 4 := by decide
  omega

/-- A text has at least four times as many slashes as directive lines. -/
theorem directiveLines_le_count_slash (text : List Char) :
    4 * directiveLines text ≤ text.count '/' := by
  have lines : ∀ pieces : List (List Char),
      4 * pieces.countP isDirectiveLine ≤ pieces.flatten.count '/' := by
    intro pieces
    induction pieces with
    | nil => exact Nat.le_refl 0
    | cons line others ih =>
      rw [List.flatten_cons, List.count_append]
      by_cases directive : isDirectiveLine line = true
      · have slashes := four_le_count_slash directive
        rw [List.countP_cons_of_pos directive]
        omega
      · rw [List.countP_cons_of_neg directive]
        omega
  have joined := count_slash_intercalate (text.splitOn '\n')
  rw [List.intercalate_splitOn] at joined
  rw [joined]
  exact lines _

/-- The characters of a directive. -/
theorem toList_referenceDirective (declaration : String) :
    (referenceDirective declaration).toList =
      "/// <reference types=\"./".toList ++ (declaration.toList ++ "\" />".toList) := by
  unfold referenceDirective
  simp only [String.toList_append, List.append_assoc]

/-- A directive is at most one directive line, whatever the name of the declaration file is. -/
theorem directiveLines_referenceDirective_le {declaration : String}
    (noSlash : '/' ∉ declaration.toList) :
    directiveLines (referenceDirective declaration).toList ≤ 1 := by
  -- Two directive lines would have eight slashes, and a directive has five.
  have slashes : (referenceDirective declaration).toList.count '/' = 5 := by
    rw [toList_referenceDirective, List.count_append, List.count_append,
      List.count_eq_zero_of_not_mem noSlash]
    decide
  have bound := directiveLines_le_count_slash (referenceDirective declaration).toList
  omega

/-- A directive is one line, if the name of the declaration file has no newline. -/
theorem newline_not_mem_referenceDirective {declaration : String}
    (noBreak : '\n' ∉ declaration.toList) : '\n' ∉ (referenceDirective declaration).toList := by
  rw [toList_referenceDirective, List.mem_append, List.mem_append, not_or, not_or]
  exact ⟨by decide, noBreak, by decide⟩

/-- A directive is one directive line, if the name of the declaration file has no newline. -/
theorem directiveLines_referenceDirective {declaration : String}
    (noBreak : '\n' ∉ declaration.toList) :
    directiveLines (referenceDirective declaration).toList = 1 := by
  have directive : isDirectiveLine (referenceDirective declaration).toList = true := by
    rw [isDirectiveLine, Bool.and_eq_true_iff, List.isPrefixOf_iff_prefix,
      List.isSuffixOf_iff_suffix, toList_referenceDirective]
    exact ⟨List.prefix_append _ _, (List.suffix_append _ _).trans (List.suffix_append _ _)⟩
  rw [directiveLines, List.splitOn_eq_singleton (newline_not_mem_referenceDirective noBreak),
    List.countP_singleton, if_pos directive]

/-! ## Directive lines of a file -/

/-- A change that puts in the directive for a declaration file whose name has no slash. -/
def IsInjection (change : String → String) : Prop :=
  ∃ declaration : String, '/' ∉ declaration.toList ∧ change = (injectReference · declaration)

/-- A change that puts in the directive for a declaration file whose name has neither a slash nor a
newline. -/
def IsLineInjection (change : String → String) : Prop :=
  ∃ declaration : String, '\n' ∉ declaration.toList ∧ change = (injectReference · declaration)

variable {changes : List (String → String)}

/-- Injections, one after the other, add at most one directive line each, and take none away. -/
theorem directiveLines_foldl (injections : ∀ change ∈ changes, IsInjection change)
    (text : String) :
    directiveLines text.toList ≤
        directiveLines (changes.foldl (fun text change => change text) text).toList ∧
      directiveLines (changes.foldl (fun text change => change text) text).toList ≤
        directiveLines text.toList + changes.length := by
  induction changes generalizing text with
  | nil => exact ⟨Nat.le_refl _, Nat.le_refl _⟩
  | cons change others ih =>
    obtain ⟨declaration, noSlash, rfl⟩ := injections _ List.mem_cons_self
    obtain ⟨atLeast, atMost⟩ := ih (fun change member =>
      injections change (List.mem_cons_of_mem _ member)) (injectReference text declaration)
    have single := directiveLines_referenceDirective_le noSlash
    rw [directiveLines_injectReference] at atLeast atMost
    rw [List.foldl_cons, List.length_cons]
    exact ⟨Nat.le_trans (Nat.le_add_right _ _) atLeast, by dsimp only; omega⟩

/-- Injections without a newline, one after the other, add one directive line each. -/
theorem directiveLines_foldl_of_line (injections : ∀ change ∈ changes, IsLineInjection change)
    (text : String) :
    directiveLines (changes.foldl (fun text change => change text) text).toList =
      directiveLines text.toList + changes.length := by
  induction changes generalizing text with
  | nil => rfl
  | cons change others ih =>
    obtain ⟨declaration, noBreak, rfl⟩ := injections _ List.mem_cons_self
    rw [List.foldl_cons, ih fun change member => injections change (List.mem_cons_of_mem _ member),
      directiveLines_injectReference, directiveLines_referenceDirective noBreak, List.length_cons]
    omega

end Declarations

/-- How many lines of a text file are directives; what is no text file has none. -/
def Node.directiveLines : Node → Nat
  | .file content _ =>
    match Utf8.decode? content with
    | some text => Declarations.directiveLines text.toList
    | none => 0
  | .directory | .link _ => 0

/-- How many lines of the text file at a location are directives. -/
def FileTree.directivesAt (tree : FileTree) (location : Location) : Nat :=
  match tree.get? location with
  | some node => node.directiveLines
  | none => 0

open Declarations

/-- The directive lines of a text file. -/
theorem Node.directiveLines_text {content : Bytes} {text : String}
    (isText : Utf8.decode? content = some text) (program : Option Program) :
    (Node.file content program).directiveLines = Declarations.directiveLines text.toList := by
  rw [Node.directiveLines, isText]

namespace FileTree

variable {tree after : FileTree} {directory location : Location} {edits : List Edit}

/-- Changes at a location come from edits that lead there. -/
theorem exists_of_mem_changesAt {change : String → String}
    (member : change ∈ tree.changesAt directory location edits) :
    ∃ edit ∈ edits, tree.leadsTo directory location edit.path = true ∧ edit.change = change := by
  obtain ⟨edit, kept, same⟩ := List.mem_map.mp member
  obtain ⟨isEdit, leads⟩ := List.mem_filter.mp kept
  exact ⟨edit, isEdit, leads, same⟩

/-- Edits that do not fail leave a location as it was, or change the text of a file there. -/
theorem directivesAt_applyAll (done : tree.applyAll directory edits = .ok after)
    (location : Location) :
    (tree.changesAt directory location edits = [] ∧ after.get? location = tree.get? location) ∨
    ∃ text : String, tree.directivesAt location = Declarations.directiveLines text.toList ∧
      after.directivesAt location = Declarations.directiveLines
        ((tree.changesAt directory location edits).foldl (fun text change => change text)
          text).toList := by
  have rewritten := get?_applyAll done location
  rcases changes : tree.changesAt directory location edits with _ | ⟨change, others⟩
  · rw [changes, Node.rewritten_nil, Option.map_id, id] at rewritten
    exact .inl ⟨rfl, rewritten⟩
  · -- An edit that leads here did not fail, so there is a text here.
    obtain ⟨edit, isEdit, leads, -⟩ :=
      exists_of_mem_changesAt (changes ▸ List.mem_cons_self : change ∈ _)
    obtain ⟨there, content, program, text, found, isText⟩ := exists_of_mem_applyAll done isEdit
    obtain ⟨node, found'⟩ := leadsTo_iff.mp leads
    obtain ⟨rfl, -⟩ := Prod.mk.inj (Except.ok.inj (found.symm.trans found'))
    rw [get?_of_find found, Option.map_some, Node.rewritten_text _ isText, changes] at rewritten
    refine .inr ⟨text, ?_, ?_⟩
    · rw [directivesAt, get?_of_find found]
      exact Node.directiveLines_text isText program
    · rw [directivesAt, rewritten]
      exact Node.directiveLines_text (Utf8.decode?_encode _) program

end FileTree

/-! ## What a run of links leaves -/

namespace Declarations

variable {workspace after : Workspace} {directory : Path} {plan : List Path} {location : Location}

/-- Linking a plan, with or without a fault, makes the first of the edits for it; without a fault,
it makes them all. -/
theorem exists_applyAll_of_link {reply : Except Fault (List Path)}
    (ran : outcome (link directory plan) workspace = (reply, after)) :
    ∃ made rest, linkEdits workspace directory plan = made ++ rest ∧
      workspace.files.applyAll workspace.directory made = .ok after.files ∧
      ∀ linked, reply = .ok linked → rest = [] := by
  -- What is left to be linked has the same edits behind the first source as in front of it.
  induction plan generalizing workspace reply with
  | nil =>
    cases ran
    exact ⟨[], [], rfl, rfl, fun _ _ => rfl⟩
  | cons source plan ih =>
    rw [link, outcome_bind] at ran
    rcases first : outcome (linkSource directory source) workspace with ⟨fault | script, between⟩
    · rw [first] at ran
      cases ran
      rw [(exists_pair_of_linkSource_error first).1]
      refine ⟨[], _, rfl, rfl, fun _ failed => ?_⟩
      cases failed
    · rw [first] at ran
      dsimp only at ran
      have applied := applyAll_of_linkSource first
      have stayed : between.directory = workspace.directory :=
        (respects_linkSource Workspace.allows_keeps_directory directory source).of_outcome first
      have edits : linkEdits between directory plan = linkEdits workspace directory plan :=
        linkEdits_alike (FileTree.alike_applyAll applied) stayed
      rw [outcome_bind] at ran
      rcases others : outcome (link directory plan) between with ⟨fault | linked, last⟩
      all_goals
        rw [others] at ran
        cases ran
        obtain ⟨made, rest, split, done, whole⟩ := ih others
        rw [stayed] at done
        refine ⟨(linkEdit? workspace directory source).toList ++ made, rest, ?_,
          FileTree.applyAll_append applied done, ?_⟩
        · rw [linkEdits_cons, ← edits, split, List.append_assoc]
      · intro _ failed
        cases failed
      · exact fun _ _ => whole linked rfl

/-- How many sources of a plan have the script of their output files at a location, with both output
files there. -/
def linksTo (workspace : Workspace) (directory : Path) (plan : List Path) (location : Location) :
    Nat :=
  plan.countP fun source =>
    (ArtifactPair.ofSource? directory source).any fun pair =>
      pair.isComplete workspace &&
        workspace.files.leadsTo workspace.directory location pair.script

/-- A location is changed by as many edits for a plan as sources are linked to it. -/
theorem length_changesAt_linkEdits (workspace : Workspace) (directory : Path) (plan : List Path)
    (location : Location) :
    (workspace.files.changesAt workspace.directory location
      (linkEdits workspace directory plan)).length = linksTo workspace directory plan location := by
  rw [FileTree.changesAt, List.length_map, ← List.countP_eq_length_filter, linkEdits,
    List.countP_filterMap, linksTo]
  congr 1
  funext source
  rw [linkEdit?]
  rcases ArtifactPair.ofSource? directory source with _ | pair
  · rfl
  · rw [Option.bind_some, Option.any_some]
    by_cases complete : pair.isComplete workspace = true
    · rw [if_pos complete, complete, Bool.true_and]
      rfl
    · rw [if_neg complete, Bool.eq_false_iff.mpr complete, Bool.false_and]
      rfl

/-- The edits for a plan are injections. -/
theorem isInjection_of_mem_linkEdits {edit : Edit}
    (member : edit ∈ linkEdits workspace directory plan) : IsInjection edit.change := by
  obtain ⟨source, -, pair, base, -, -, noSlash, -, -, change⟩ := exists_of_mem_linkEdits member
  refine ⟨base ++ ".d.ts", ?_, change⟩
  rw [String.toList_append, List.mem_append, not_or]
  exact ⟨noSlash, by decide⟩

/-- The edits for a plan inject lines, if the base names of its sources have no newline. -/
theorem isLineInjection_of_mem_linkEdits
    (noBreaks : ∀ source ∈ plan, ∀ base, ArtifactPair.baseName? source = some base →
      '\n' ∉ base.toList)
    {edit : Edit} (member : edit ∈ linkEdits workspace directory plan) :
    IsLineInjection edit.change := by
  obtain ⟨source, planned, linked⟩ := List.mem_filterMap.mp member
  obtain ⟨pair, paired, chosen⟩ := Option.bind_eq_some_iff.mp linked
  obtain ⟨base, named, noSlash, rfl⟩ := ArtifactPair.ofSource?_eq_some_iff.mp paired
  split at chosen
  · obtain rfl := Option.some.inj chosen
    refine ⟨base ++ ".d.ts", ?_, by rw [ArtifactPair.edit, ArtifactPair.declarationName_eq noSlash]⟩
    rw [String.toList_append, List.mem_append, not_or]
    exact ⟨noBreaks source planned base named, by decide⟩
  · cases chosen

/-- A run of links, with or without a fault, takes no directive line away, adds at most one for each
source that is linked to a file, and leaves what no source is linked to. -/
theorem directivesAt_link {reply : Except Fault (List Path)}
    (ran : outcome (link directory plan) workspace = (reply, after)) (location : Location) :
    (workspace.files.directivesAt location ≤ after.files.directivesAt location ∧
      after.files.directivesAt location ≤
        workspace.files.directivesAt location + linksTo workspace directory plan location) ∧
    (linksTo workspace directory plan location = 0 →
      after.files.get? location = workspace.files.get? location) := by
  obtain ⟨made, rest, split, done, -⟩ := exists_applyAll_of_link ran
  -- The edits that were made are not more than those for the plan.
  have length := length_changesAt_linkEdits workspace directory plan location
  rw [split, FileTree.changesAt_append, List.length_append] at length
  rcases FileTree.directivesAt_applyAll done location with ⟨none, still⟩ | ⟨text, before, later⟩
  · have same : after.files.directivesAt location = workspace.files.directivesAt location := by
      rw [FileTree.directivesAt, still]
      rfl
    exact ⟨by omega, fun _ => still⟩
  · have injections : ∀ change ∈ workspace.files.changesAt workspace.directory location made,
        IsInjection change := by
      intro change member
      obtain ⟨edit, isMade, -, rfl⟩ := FileTree.exists_of_mem_changesAt member
      exact isInjection_of_mem_linkEdits (split ▸ List.mem_append_left rest isMade)
    obtain ⟨atLeast, atMost⟩ := directiveLines_foldl injections text
    refine ⟨by rw [before, later]; omega, fun unlinked => ?_⟩
    have none : workspace.files.changesAt workspace.directory location made = [] :=
      List.length_eq_zero_iff.mp (by omega)
    rw [FileTree.get?_applyAll done, none, Node.rewritten_nil, Option.map_id, id]

/-- The edits for a plan, where none fails, add one directive line for each source that is linked to
a file, if the base names have no newline. -/
theorem directivesAt_applyAll_linkEdits {edited : FileTree}
    (applied : workspace.files.applyAll workspace.directory (linkEdits workspace directory plan) =
      .ok edited)
    (noBreaks : ∀ source ∈ plan, ∀ base, ArtifactPair.baseName? source = some base →
      '\n' ∉ base.toList) (location : Location) :
    edited.directivesAt location =
      workspace.files.directivesAt location + linksTo workspace directory plan location := by
  have length := length_changesAt_linkEdits workspace directory plan location
  rcases FileTree.directivesAt_applyAll applied location with
    ⟨none, still⟩ | ⟨text, before, later⟩
  · rw [none, List.length_nil] at length
    rw [← length, FileTree.directivesAt, still]
    rfl
  · have injections : ∀ change ∈ workspace.files.changesAt workspace.directory location
        (linkEdits workspace directory plan), IsLineInjection change := by
      intro change member
      obtain ⟨edit, isEdit, -, rfl⟩ := FileTree.exists_of_mem_changesAt member
      exact isLineInjection_of_mem_linkEdits noBreaks isEdit
    rw [before, later, directiveLines_foldl_of_line injections, length]

/-- In an output directory without links, at most one source is linked to a file, if the base names
of the sources are different. -/
theorem linksTo_le_one {place : Location}
    (found : workspace.files.find workspace.directory directory = .ok (place, .directory))
    (noLinks : ∀ name target, workspace.files.get? (place ++ [name]) ≠ some (.link target))
    (distinct : (plan.filterMap ArtifactPair.baseName?).Nodup) (location : Location) :
    linksTo workspace directory plan location ≤ 1 := by
  -- What is linked to a location has the base name that the location is named by.
  have named : ∀ source, (ArtifactPair.ofSource? directory source).any (fun pair =>
      pair.isComplete workspace &&
        workspace.files.leadsTo workspace.directory location pair.script) = true →
      ∃ base, ArtifactPair.baseName? source = some base ∧
        location = place ++ [Utf8.encode (base ++ ".js")] := by
    intro source linked
    obtain ⟨pair, paired, holds⟩ := (Option.any_eq_true _ _).mp linked
    obtain ⟨-, leads⟩ := Bool.and_eq_true_iff.mp holds
    obtain ⟨base, isBase, noSlash, rfl⟩ := ArtifactPair.ofSource?_eq_some_iff.mp paired
    obtain ⟨node, there⟩ := FileTree.leadsTo_iff.mp leads
    exact ⟨base, isBase, (FileTree.find_join_name (ArtifactPair.isName_script noSlash) found
      (noLinks _) there).1⟩
  rcases Nat.eq_zero_or_pos (linksTo workspace directory plan location) with none | some
  · omega
  · obtain ⟨first, -, linked⟩ := List.countP_pos_iff.mp some
    obtain ⟨base, isBase, rfl⟩ := named first linked
    have bound : linksTo workspace directory plan (place ++ [Utf8.encode (base ++ ".js")]) ≤
        (plan.filterMap ArtifactPair.baseName?).count base := by
      rw [List.count, List.countP_filterMap]
      refine List.countP_mono_left fun source _ linked => ?_
      obtain ⟨other, isOther, same⟩ := named source linked
      rw [List.append_cancel_left_eq, List.singleton_inj, Utf8.encode_append, Utf8.encode_append,
        List.append_cancel_right_eq] at same
      rw [isOther, Utf8.encode_injective same]
      simp
    exact bound.trans (List.nodup_iff_count_le_one.mp distinct base)

/-- Sources are linked as they are in a workspace with the same files and working directory. -/
theorem linksTo_congr (files : after.files = workspace.files)
    (stayed : after.directory = workspace.directory) (directory : Path) (plan : List Path)
    (location : Location) :
    linksTo after directory plan location = linksTo workspace directory plan location := by
  unfold linksTo ArtifactPair.isComplete Workspace.exists?
  rw [files, stayed]

/-! ## What the emission of declarations adds -/

namespace Emitter

open Build (Context Progress Work)

variable {emitter : Emitter} {context : Context} {start final : Progress} {checked : Workspace}

/-- The workspace in which a stage has its type-checker behind it: the one that the call leaves or,
where none is called, the one in which that is known. -/
def behindChecker (emitter : Emitter) (context : Context) (start : Progress) : Workspace :=
  if start.result.hasErrors then start.workspace
  else
    let directory := start.workspace.directoryPath
    let load : Action Fault (Option TypeChecker) :=
      emitter.source.load (projectRoot context directory) emitter.timeoutSecs
    match outcome load start.workspace with
    | (.ok (some checker), found) =>
      match context.emissionPlan directory with
      | [] => found
      | plan =>
        (outcome (callChecker checker plan (emitter.options context directory))
          (found.logged .debug logTarget
            s!"[fob-dts] emitting {plan.length} declaration(s) with {checker.name}")).2
    | (_, found) => found

/-- Behind a type-checker that is called is what the call leaves. -/
theorem behindChecker_of_calls (clean : start.result.hasErrors = false)
    {reply : Except CheckerError Emitted}
    (calls : emitter.Calls context start.workspace reply checked) :
    emitter.behindChecker context start = checked := by
  obtain ⟨planned, checker, found, loaded, called⟩ := calls
  unfold behindChecker projectRoot
  rw [if_neg (by simp [clean])]
  dsimp only
  rw [loaded]
  dsimp only
  split
  case h_1 none => exact absurd none planned
  case h_2 => rw [called]

/-- In a build without errors, a type-checker is called and leaves the workspace behind it, or none
is and nothing is written. -/
theorem calls_or_files_run (emitter : Emitter) (context : Context)
    (clean : start.result.hasErrors = false) :
    (∃ reply, emitter.Calls context start.workspace reply (emitter.behindChecker context start)) ∨
      (outcome (emitter.run context) start).2.workspace.files =
        (emitter.behindChecker context start).files := by
  have loads : Succeeds (emitter.source.load
      (context.options.resolve start.workspace.directoryPath context.options.cwd)
      emitter.timeoutSecs : Action Fault _) := emitter.source.succeeds_load _ _
  obtain ⟨found, between, loaded⟩ := loads start.workspace
  rcases found with _ | checker
  · right
    rw [outcome_run_of_load clean loaded, behindChecker, if_neg (by simp [clean])]
    unfold projectRoot
    dsimp only
    rw [loaded]
    rfl
  · rcases plan : context.emissionPlan start.workspace.directoryPath with _ | ⟨source, others⟩
    · right
      rw [outcome_run_of_load clean loaded, behindChecker, if_neg (by simp [clean])]
      unfold projectRoot
      dsimp only
      rw [loaded, plan]
      rfl
    · left
      have planned : context.emissionPlan start.workspace.directoryPath ≠ [] := by
        rw [plan]
        exact List.cons_ne_nil source others
      -- Whatever the call comes to, it is a reply.
      have calls : emitter.Calls context start.workspace _ _ :=
        ⟨planned, checker, between, loaded, rfl⟩
      rw [behindChecker_of_calls clean calls]
      exact ⟨_, calls⟩

/-- A stage leaves the files as they are behind the type-checker, or as a run of links leaves
them. -/
theorem files_run_cases (emitter : Emitter) (context : Context) (start : Progress) :
    let directory := start.workspace.directoryPath
    let checked := emitter.behindChecker context start
    let final := (outcome (emitter.run context) start).2
    final.workspace.files = checked.files ∨
      ∃ linking reply after, linking.files = checked.files ∧
        linking.directory = checked.directory ∧
        outcome (link (emitter.options context directory).outDir
          (context.emissionPlan directory)) linking = (reply, after) ∧
        final.workspace.files = after.files := by
  intro directory checked final
  by_cases errors : start.result.hasErrors = true
  · left
    rw [show final = _ from congrArg Prod.snd (outcome_run_of_hasErrors errors),
      show checked = start.workspace from if_pos errors]
    rfl
  · have clean : start.result.hasErrors = false := Bool.eq_false_iff.mpr errors
    rcases calls_or_files_run emitter context clean with ⟨reply, calls⟩ | same
    · have answered : final = _ := congrArg Prod.snd (outcome_run_of_calls clean calls)
      rcases reply with cause | emitted
      · left
        rw [answered]
        rfl
      · right
        let reports := reported emitted.diagnostics ⟨checked, start.result⟩
        rcases linked : outcome (link (emitter.options context directory).outDir
          (context.emissionPlan directory)) reports.workspace with ⟨reply, after⟩
        refine ⟨reports.workspace, reply, after, files_reported _ _, directory_reported _ _,
          linked, ?_⟩
        have linking : outcome (Work.onWorkspace
            (link (context.options.resolvedOutDir directory) (context.emissionPlan directory)))
            reports = (reply, ⟨after, reports.result⟩) :=
          Work.outcome_onWorkspace_of linked reports.result
        rw [answered, answer, outcome_bind_ok (outcome_reportDiagnostics _ _)]
        change (outcome _ reports).2.workspace.files = after.files
        rcases reply with fault | scripts
        · rw [outcome_bind_error linking]
        · rw [outcome_bind_ok linking]
          rfl
    · exact .inl same

/-- **Directives of one run.** Whatever a stage finds and however it ends, behind its type-checker
it takes no directive line away from a file and adds at most as many as there are planned sources
whose output files are both there and whose script is that file; a file that is the script of none
of them stays as it was. The count is exact where the stage comes to its end and no base name has a
newline. It is at most one where the base names are different and the output directory has no
links. As in all of a file tree, no two locations share a file, and a write fails only before it has
opened the file. -/
theorem directives_added (emitter : Emitter) (context : Context) (start : Progress)
    (location : Location) :
    let directory := start.workspace.directoryPath
    let out := (emitter.options context directory).outDir
    let plan := context.emissionPlan directory
    let checked := emitter.behindChecker context start
    let final := (outcome (emitter.run context) start).2.workspace
    (checked.files.directivesAt location ≤ final.files.directivesAt location ∧
      final.files.directivesAt location ≤
        checked.files.directivesAt location + linksTo checked out plan location) ∧
    (linksTo checked out plan location = 0 →
      final.files.get? location = checked.files.get? location) ∧
    (∀ emitted ended, emitter.Completes context start emitted checked ended →
      (∀ source ∈ plan, ∀ base, ArtifactPair.baseName? source = some base →
        '\n' ∉ base.toList) →
      final.files.directivesAt location =
        checked.files.directivesAt location + linksTo checked out plan location) ∧
    ∀ place, checked.files.find checked.directory out = .ok (place, .directory) →
      (∀ name target, checked.files.get? (place ++ [name]) ≠ some (.link target)) →
      (plan.filterMap ArtifactPair.baseName?).Nodup →
      linksTo checked out plan location ≤ 1 := by
  intro directory out plan checked final
  refine ⟨?_, ?_, ?_, fun place found noLinks distinct =>
    linksTo_le_one found noLinks distinct location⟩
  · rcases files_run_cases emitter context start with same | ⟨linking, reply, after, files,
      stayed, ran, last⟩
    · rw [show final.files = checked.files from same]
      omega
    · have bounds := (directivesAt_link ran location).1
      rw [linksTo_congr files stayed, files] at bounds
      rw [show final.files = after.files from last]
      exact bounds
  · intro unlinked
    rcases files_run_cases emitter context start with same | ⟨linking, reply, after, files,
      stayed, ran, last⟩
    · rw [show final.files = checked.files from same]
    · rw [show final.files = after.files from last, ← files]
      exact (directivesAt_link ran location).2 (by rw [linksTo_congr files stayed]; exact unlinked)
  · intro emitted ended run noBreaks
    have ends : final = ended.workspace := congrArg (·.2.workspace) run.done
    rw [ends]
    exact directivesAt_applyAll_linkEdits run.applyAll.1 noBreaks location

/-! ## A package with two sources of one base name -/

open Build.OutputStage (loaded sampleEmitter sampleContext sampleStart checkedFrom emittedFrom)

/-- The script of the sample, which has the only base name of its plan, gets one directive line. -/
theorem directives_added_sample :
    linksTo (checkedFrom sampleContext sampleStart) (.ofString "/dist")
        (sampleContext.emissionPlan .root) [Utf8.encode "dist", Utf8.encode "a.js"] ≤ 1 ∧
      (emittedFrom sampleContext sampleStart).workspace.files.directivesAt
        [Utf8.encode "dist", Utf8.encode "a.js"] = 1 := by
  have run : sampleEmitter.Completes sampleContext sampleStart ⟨[], []⟩
      (checkedFrom sampleContext sampleStart) (emittedFrom sampleContext sampleStart) :=
    completes_sample rfl (by decide +kernel) rfl rfl
  have behind := behindChecker_of_calls run.clean run.calls
  have plan : sampleContext.emissionPlan sampleStart.workspace.directoryPath =
      [.ofString "/src/a.ts"] := rfl
  have noLinks : ∀ name target, (checkedFrom sampleContext sampleStart).files.get?
      ([Utf8.encode "dist"] ++ [name]) ≠ some (.link target) :=
    FileTree.get?_ne_link rfl [Utf8.encode "dist"]
  obtain ⟨-, -, counted, once⟩ := directives_added sampleEmitter sampleContext sampleStart
    [Utf8.encode "dist", Utf8.encode "a.js"]
  rw [behind] at counted once
  refine ⟨once [Utf8.encode "dist"] rfl noLinks (by decide +kernel), ?_⟩
  have added := counted ⟨[], []⟩ _ run fun source planned base named => by
    rw [plan, List.mem_singleton] at planned
    obtain rfl := planned
    cases named
    decide
  exact added.trans (by decide +kernel)

/-- A package with two sources that have one base name, and the script of that name. -/
def twinFiles : FileTree :=
  .ofNodes [([Utf8.encode "src"], .directory),
    ([Utf8.encode "src", Utf8.encode "a.ts"], .file (Utf8.encode "export const a = 1;\n") none),
    ([Utf8.encode "src", Utf8.encode "a.tsx"], .file (Utf8.encode "export const b = 1;\n") none),
    ([Utf8.encode "dist"], .directory),
    ([Utf8.encode "dist", Utf8.encode "a.js"], .file (Utf8.encode "exports.a = 1;\n") none)]

/-- A build of the two sources. -/
def twinContext : Context := loaded ["src/a.ts", "src/a.tsx"]

/-- The build of the two sources before its stages. -/
def twinStart : Progress := ⟨.start twinFiles [] [] none, .empty⟩

/-- One run may add more than one directive line to a script. -/
theorem not_forall_directivesAt_le :
    ¬∀ (emitter : Emitter) (context : Context) (start : Progress) (location : Location),
      (outcome (emitter.run context) start).2.workspace.files.directivesAt location ≤
        (emitter.behindChecker context start).files.directivesAt location + 1 := by
  intro once
  have two : (emittedFrom twinContext twinStart).workspace.files.directivesAt
      [Utf8.encode "dist", Utf8.encode "a.js"] = 2 := by decide +kernel
  have none : (sampleEmitter.behindChecker twinContext twinStart).files.directivesAt
      [Utf8.encode "dist", Utf8.encode "a.js"] = 0 := by decide +kernel
  have bound := once sampleEmitter twinContext twinStart [Utf8.encode "dist", Utf8.encode "a.js"]
  rw [none] at bound
  exact absurd (two.symm.trans_le bound) (by decide)

end Emitter

end Declarations

end BundleFinish
