import BundleFinish.Proofs.Reports

/-! # Checks before a run

A command line checks everything that can be checked before its first stage runs. A run that a check
ends has written lines into the log and done nothing else, and would have ended so whatever the
programs around it do. A run that comes to its stages can only fail at a file or with the errors
that its stages report. -/

namespace BundleFinish

/-! ## Workspaces without their programs -/

/-- A node without the program that a file may be. -/
def Node.disarmed : Node → Node
  | .file content _ => .file content none
  | .directory => .directory
  | .link target => .link target

/-- Nodes that differ in nothing but a program are files of one content, or the same. -/
theorem Node.cases_of_disarmed_eq {a b : Node} (same : a.disarmed = b.disarmed) :
    (∃ content programA programB, a = .file content programA ∧ b = .file content programB) ∨
      a = b := by
  rcases a with ⟨content, program⟩ | _ | target <;> rcases b with ⟨content', program'⟩ | _ | target'
  case file.file =>
    obtain rfl : content = content' := (Node.file.inj same).1
    exact .inl ⟨content, program, program', rfl, rfl⟩
  case directory.directory => exact .inr rfl
  case link.link => exact .inr same
  all_goals cases same

/-- Two trees that differ in nothing but which files are programs, what these do, and what may be
written. -/
def FileTree.SameContents (a b : FileTree) : Prop :=
  ∀ location,
    ((a.get? location).map Node.disarmed, a.opened .reading location) =
      ((b.get? location).map Node.disarmed, b.opened .reading location)

/-- Two workspaces with the same files, working directory and environment. What programs they have,
and what was done in them, may differ. -/
structure Workspace.SameInputs (a b : Workspace) : Prop where
  files : a.files.SameContents b.files
  directory : a.directory = b.directory
  environment : a.environment = b.environment

namespace FileTree.SameContents

variable {a b : FileTree}

/-- At each location the same stands in both trees, but for a program. -/
theorem disarmed_eq (same : SameContents a b) (location : Location) :
    (a.get? location).map Node.disarmed = (b.get? location).map Node.disarmed :=
  (Prod.mk.inj (same location)).1

/-- The same may be read in both trees. -/
theorem opened_eq (same : SameContents a b) (location : Location) :
    a.opened .reading location = b.opened .reading location :=
  (Prod.mk.inj (same location)).2

/-- Trees with the same contents are alike. -/
theorem alike (same : SameContents a b) : Alike a b := by
  intro location
  have outlined : Node.outline ∘ Node.disarmed = Node.outline := by
    funext node
    cases node <;> rfl
  have disarmed := congrArg (Option.map Node.outline) (same.disarmed_eq location)
  rwa [Option.map_map, Option.map_map, outlined] at disarmed

/-- A path leads nowhere for one reason, or to one location with one content. -/
theorem find_cases (same : SameContents a b) (directory : Location) (path : Path) :
    a.find directory path = b.find directory path ∨
      ∃ there content programA programB,
        a.find directory path = .ok (there, .file content programA) ∧
          b.find directory path = .ok (there, .file content programB) := by
  have located := locate_alike same.alike true directory path
  rcases placeA : a.locate true directory path with causeA | ⟨there, node⟩ | there <;>
    rcases placeB : b.locate true directory path with causeB | ⟨there', node'⟩ | there' <;>
    rw [placeA, placeB] at located
  case error.error =>
    obtain rfl : causeA = causeB := Except.error.inj located
    exact .inl (by rw [find, find, placeA, placeB])
  case ok.found.ok.found =>
    obtain rfl : there = there' := (Place.found.inj (Except.ok.inj located)).1
    have foundA : a.find directory path = .ok (there, node) := by
      rw [find, placeA]
      rfl
    have foundB : b.find directory path = .ok (there, node') := by
      rw [find, placeB]
      rfl
    have nodes := same.disarmed_eq there
    rw [get?_of_find foundA, get?_of_find foundB] at nodes
    rcases Node.cases_of_disarmed_eq (Option.some.inj nodes) with
      ⟨content, programA, programB, rfl, rfl⟩ | rfl
    · exact .inr ⟨there, content, programA, programB, foundA, foundB⟩
    · exact .inl (foundA.trans foundB.symm)
  case ok.vacant.ok.vacant => exact .inl (by rw [find, find, placeA, placeB]; rfl)
  all_goals cases located

/-- A path leads to a regular file in both trees, or in none. -/
theorem isFile_eq (same : SameContents a b) (directory : Location) (path : Path) :
    a.isFile directory path = b.isFile directory path := by
  unfold isFile
  rcases same.find_cases directory path with found | ⟨_, _, _, _, foundA, foundB⟩
  · rw [found]
  · rw [foundA, foundB]

/-- A file is read as the same text. -/
theorem readText_eq (same : SameContents a b) (directory : Location) (path : Path) :
    a.readText directory path = b.readText directory path := by
  unfold readText FileTree.read
  rcases same.find_cases directory path with found | ⟨there, _, _, _, foundA, foundB⟩
  · simp only [found, same.opened_eq]
  · rw [foundA, foundB]
    simp only [bind, Except.bind, same.opened_eq there]

end FileTree.SameContents

namespace Workspace.SameInputs

variable {a b : Workspace}

/-- A path leads to something in both workspaces, or in none. -/
theorem exists?_eq (same : SameInputs a b) (path : Path) : a.exists? path = b.exists? path := by
  unfold Workspace.exists?
  rw [same.directory, FileTree.exists?_alike same.files.alike]

/-- A path leads to a regular file in both workspaces, or in none. -/
theorem isFile_eq (same : SameInputs a b) : a.isFile = b.isFile := by
  funext path
  unfold Workspace.isFile
  rw [same.directory, same.files.isFile_eq]

/-- Both workspaces are in the same directory. -/
theorem directoryPath_eq (same : SameInputs a b) : a.directoryPath = b.directoryPath := by
  unfold directoryPath
  rw [same.directory]

end Workspace.SameInputs

/-- The working directory is told in both workspaces, or in none. -/
theorem Workspace.SameInputs.currentDirectory_eq {a b : Workspace} (same : a.SameInputs b) :
    (outcome Action.currentDirectory a).1 = (outcome Action.currentDirectory b).1 := by
  have directory : a.files.get? a.directory = some .directory ↔
      b.files.get? b.directory = some .directory := by
    rw [same.directory]
    rcases same.files.alike.cases b.directory with ⟨nodeA, nodeB⟩ | ⟨nodeA, nodeB⟩ |
      ⟨_, nodeA, nodeB⟩ | ⟨_, _, _, _, nodeA, nodeB⟩ <;>
    simp [nodeA, nodeB]
  rcases Action.outcome_currentDirectory_cases a with ⟨stands, asked⟩ | ⟨astray, asked⟩ <;>
  rcases Action.outcome_currentDirectory_cases b with ⟨stands', asked'⟩ | ⟨astray', asked'⟩
  · rw [asked, asked', same.directoryPath_eq]
  · exact absurd (directory.mp stands) astray'
  · exact absurd (directory.mpr stands') astray
  · rw [asked, asked']

/-! ## Settings from the same inputs -/

namespace Configuration

variable {a b : Workspace}

/-- The same settings file is found. -/
theorem findFile?_eq (same : a.SameInputs b) (path : Path) :
    findFile? a path = findFile? b path := by
  unfold findFile?
  rw [same.isFile_eq, same.directoryPath_eq]

/-- The same settings are read. -/
theorem fileLayer_eq (same : a.SameInputs b) (path : Path) :
    fileLayer a path = fileLayer b path := by
  unfold fileLayer
  rw [findFile?_eq same, same.directoryPath_eq, same.directory]
  rcases findFile? b path with _ | found
  · rfl
  · dsimp only
    rw [same.files.readText_eq]

end Configuration

namespace CommandLine

open Build (Context OutputStage Progress Stage Tracker TrackedFiles)

variable {arguments : Arguments} {workspace before after a b : Workspace} {context : Context}
  {stages : List Stage} {fault : RunFault}

/-- The same configuration is loaded. -/
theorem loadConfiguration_eq (same : a.SameInputs b) (arguments : Arguments) (cwd : Path) :
    loadConfiguration arguments cwd a = loadConfiguration arguments cwd b := by
  unfold loadConfiguration checkConfig layers Configuration.layers
  rw [same.isFile_eq, same.environment]
  dsimp only
  rw [Configuration.fileLayer_eq same]

/-! ## What a run is prepared to -/

/-- Lifting a check into an action gives the verdict of the check. -/
@[simp] theorem outcome_checked {α : Type} (verdict : Except RunFault α) (workspace : Workspace) :
    outcome (checked verdict) workspace = (verdict, workspace) := by
  rcases verdict with fault | value <;> rfl

/-- The first entry point has to exist; then it is heard of, and the others follow. -/
theorem outcome_loadEntries_cons (tracker : Tracker) (tracked : TrackedFiles) (entry : Path)
    (others : List Path) (workspace : Workspace) :
    outcome (loadEntries tracker tracked (entry :: others)) workspace =
      if workspace.exists? entry then
        outcome (loadEntries tracker (tracker.load tracked entry).tracked others)
          { workspace with log := workspace.log ++ (tracker.load tracked entry).log }
      else (.error (.entryNotFound entry), workspace) := by
  rw [loadEntries, outcome_bind_ok (outcome_get workspace)]
  by_cases there : workspace.exists? entry = true
  · rw [if_neg (by simp [there]), if_pos there]
    rfl
  · rw [if_pos (by simp [there]), if_neg there]
    rfl

/-- Which entry points are tracked depends on which exist, and on nothing else. -/
theorem outcome_loadEntries_congr (there : ∀ path, a.exists? path = b.exists? path)
    (tracker : Tracker) (tracked : TrackedFiles) (entries : List Path) :
    (outcome (loadEntries tracker tracked entries) a).1 =
      (outcome (loadEntries tracker tracked entries) b).1 := by
  induction entries generalizing tracked a b with
  | nil => rfl
  | cons entry others ih =>
    rw [outcome_loadEntries_cons, outcome_loadEntries_cons, there entry]
    split
    · refine ih (fun path => ?_) _
      exact there path
    · rfl

/-- All entry points exist where all are reported as loaded. -/
theorem exists?_of_loadEntries {tracker : Tracker} {tracked loaded : TrackedFiles}
    {entries : List Path}
    (done : (outcome (loadEntries tracker tracked entries) workspace).1 = .ok loaded) :
    ∀ entry ∈ entries, workspace.exists? entry = true := by
  induction entries generalizing tracked workspace with
  | nil => exact fun entry none => absurd none List.not_mem_nil
  | cons entry others ih =>
    rw [outcome_loadEntries_cons] at done
    by_cases there : workspace.exists? entry = true
    · rw [if_pos there] at done
      intro other member
      rcases List.mem_cons.mp member with rfl | later
      · exact there
      · exact ih done other later
    · rw [if_neg there] at done
      cases done

/-- What a run is prepared to, apart from the lines in its log: the checks, one after the other, and
then the tracked sources. -/
theorem outcome_prepare_fst (arguments : Arguments) (workspace : Workspace) :
    (outcome (prepare arguments) workspace).1 = do
      let directory ← (outcome Action.currentDirectory workspace).1.mapError .noDirectory
      let cwd := workingDirectory arguments directory
      let configuration ← loadConfiguration arguments cwd workspace
      let tracker ← configuration.tracker.mapError fun cause => .fault (.misconfigured cause)
      let options := configuration.buildOptions cwd
      let tracked ← (outcome (loadEntries tracker .empty
        (options.resolvedEntries workspace.directoryPath)) workspace).1
      return (⟨options, tracked⟩, configuration.stages) := by
  have stays : (outcome Action.currentDirectory workspace).2 = workspace := by
    rcases Action.outcome_currentDirectory_cases workspace with ⟨-, asked⟩ | ⟨-, asked⟩ <;>
    rw [asked]
  -- Check by check: the verdict so far is the same, and the next check is of the same workspace.
  rw [prepare, fst_outcome_bind, Action.outcome_mapError, stays]
  refine bind_congr fun directory => ?_
  rw [outcome_bind_ok (outcome_get workspace), fst_outcome_bind, outcome_checked]
  refine bind_congr fun configuration => ?_
  rw [outcome_bind_ok (Action.outcome_log _ _ _ _), fst_outcome_bind, outcome_checked]
  refine bind_congr fun tracker => ?_
  -- The line in the log makes no difference to which files exist.
  have heard : ∀ text entries, (outcome (loadEntries tracker .empty entries)
      (workspace.logged .debug runLogTarget text)).1 =
        (outcome (loadEntries tracker .empty entries) workspace).1 := by
    intro text entries
    apply outcome_loadEntries_congr
    exact fun path => rfl
  rw [outcome_bind_ok (outcome_get _), fst_outcome_bind]
  dsimp only
  rw [heard]
  rfl

/-- The same run is prepared from the same inputs. -/
theorem outcome_prepare_congr (same : a.SameInputs b) (arguments : Arguments) :
    (outcome (prepare arguments) a).1 = (outcome (prepare arguments) b).1 := by
  rw [outcome_prepare_fst, outcome_prepare_fst, same.currentDirectory_eq, same.directoryPath_eq]
  refine bind_congr fun directory => ?_
  dsimp only
  rw [loadConfiguration_eq same]
  refine bind_congr fun configuration => bind_congr fun tracker => ?_
  rw [outcome_loadEntries_congr same.exists?_eq]

/-! ## What the checks promise -/

/-- A configuration that is checked, with the context that is made of it in a workspace: its global
name and its load filter are in order, compilers have time, there is something to emit declarations
for, and the entry points exist. -/
structure IsReady (configuration : Configuration) (context : Context) (workspace : Workspace) :
    Prop where
  globalName : ∀ umd, configuration.umd = some umd → Umd.checkGlobalName umd.globalName = .ok ()
  loadFilter : ∃ filter, Pattern.compile configuration.loadFilter = .ok filter
  timeout : 0 < configuration.declarations.timeoutSecs
  planned : configuration.declarations.enabled = true → configuration.entryPoints ≠ []
  there : ∀ entry ∈ context.options.resolvedEntries workspace.directoryPath,
    workspace.exists? entry = true

/-- A configuration passes its check where all of its conditions hold. -/
theorem check_eq_ok_iff {configuration : Configuration} :
    configuration.check = .ok () ↔
      (∀ umd, configuration.umd = some umd → Umd.checkGlobalName umd.globalName = .ok ()) ∧
      (∃ filter, Pattern.compile configuration.loadFilter = .ok filter) ∧
      (configuration.declarations.enabled = true → configuration.entryPoints ≠ []) ∧
      0 < configuration.declarations.timeoutSecs := by
  unfold Configuration.check
  have throws : ∀ {α β : Type} (cause : Misconfiguration) (next : α → Except Misconfiguration β),
      (throw cause : Except Misconfiguration α) >>= next = .error cause := fun _ _ => rfl
  have passes : ¬(configuration.declarations.enabled = true ∧ configuration.entryPoints = []) →
      ¬configuration.declarations.timeoutSecs = 0 →
      ((pure () : Except Misconfiguration Unit) = .ok () ↔
        (configuration.declarations.enabled = true → configuration.entryPoints ≠ []) ∧
          0 < configuration.declarations.timeoutSecs) := fun planned timeout =>
    iff_of_true rfl ⟨fun enabled none => planned ⟨enabled, none⟩, Nat.pos_of_ne_zero timeout⟩
  -- The verdict can be read off once it is known which conditions hold, in their order.
  rcases configuration.umd with _ | umd
  · rcases Pattern.compile configuration.loadFilter with cause | compiled
    · simp [throws]
    · by_cases planned : configuration.declarations.enabled = true ∧ configuration.entryPoints = []
      · simp [throws, planned]
      · by_cases timeout : configuration.declarations.timeoutSecs = 0
        · simp [planned, timeout]
        · simpa [planned, timeout] using passes planned timeout
  · rcases named : Umd.checkGlobalName umd.globalName with cause | _
    · simp [throws, named]
    · rcases Pattern.compile configuration.loadFilter with cause | compiled
      · simp [throws, named]
      · by_cases planned :
          configuration.declarations.enabled = true ∧ configuration.entryPoints = []
        · simp [throws, named, planned]
        · by_cases timeout : configuration.declarations.timeoutSecs = 0
          · simp [named, planned, timeout]
          · simpa [named, planned, timeout] using passes planned timeout

/-- A fault that a check finds, and no stage. -/
def RunFault.isFromChecks : RunFault → Bool
  | .noDirectory _ | .configNotFound _ | .entryNotFound _ => true
  | .fault (.misconfigured _) | .fault (.notLoaded _) => true
  | .fault (.io ..) | .errorsReported _ => false

/-- A workspace after which nothing but lines in the log is new. -/
def OnlyLogs (before after : Workspace) : Prop :=
  ∃ lines, after = { before with log := before.log ++ lines }

instance isPreorder_onlyLogs : IsPreorder Workspace OnlyLogs where
  refl workspace := ⟨[], by rw [List.append_nil]⟩
  trans _ _ _ := by
    rintro ⟨lines, rfl⟩ ⟨others, rfl⟩
    exact ⟨lines ++ others, by simp only [List.append_assoc]⟩

/-- Preparing a run writes lines into the log and does nothing else. -/
theorem onlyLogs_prepare (arguments : Arguments) : Respects OnlyLogs (prepare arguments) :=
  respects_prepare (fun _ level target text _ => ⟨[⟨level, target, text⟩], rfl⟩) arguments

/-- A configuration that is loaded passed its check. -/
theorem check_of_loadConfiguration {cwd : Path} {configuration : Configuration}
    (loaded : loadConfiguration arguments cwd workspace = .ok configuration) :
    configuration.check = .ok () := by
  obtain ⟨_, -, loaded⟩ := exists_of_bind_eq_ok loaded
  obtain ⟨settings, -, loaded⟩ := exists_of_bind_eq_ok (eq_ok_of_mapError loaded)
  obtain ⟨extracted, -, loaded⟩ := exists_of_bind_eq_ok loaded
  obtain ⟨_, checks, same⟩ := exists_of_bind_eq_ok loaded
  cases same
  exact eq_ok_of_mapError checks

/-- A run that is prepared has a configuration that is ready, and works on what it says. -/
theorem exists_isReady_of_prepare
    (prepared : outcome (prepare arguments) workspace = (.ok (context, stages), before)) :
    ∃ configuration,
      loadConfiguration arguments (workingDirectory arguments workspace.directoryPath) workspace =
        .ok configuration ∧
      context.options =
        configuration.buildOptions (workingDirectory arguments workspace.directoryPath) ∧
      stages = configuration.stages ∧ IsReady configuration context workspace := by
  have verdict := congrArg Prod.fst prepared
  rw [outcome_prepare_fst] at verdict
  obtain ⟨directory, asked, verdict⟩ := exists_of_bind_eq_ok verdict
  obtain rfl : directory = workspace.directoryPath := by
    rcases Action.outcome_currentDirectory_cases workspace with ⟨-, told⟩ | ⟨-, told⟩
    · rw [told] at asked
      cases asked
      rfl
    · rw [told] at asked
      cases asked
  obtain ⟨configuration, loaded, verdict⟩ := exists_of_bind_eq_ok verdict
  obtain ⟨tracker, -, verdict⟩ := exists_of_bind_eq_ok verdict
  obtain ⟨tracked, heard, same⟩ := exists_of_bind_eq_ok verdict
  cases same
  obtain ⟨globalName, loadFilter, planned, timeout⟩ :=
    check_eq_ok_iff.mp (check_of_loadConfiguration loaded)
  exact ⟨configuration, loaded, rfl, rfl, globalName, loadFilter, timeout, planned,
    exists?_of_loadEntries heard⟩

/-- A run that comes to its stages fails with the errors that they report, or at a file. -/
theorem fault_of_execute
    (prepared : outcome (prepare arguments) workspace = (.ok (context, stages), before))
    (failed : outcome (execute arguments) workspace = (.error fault, after)) :
    (∃ count, fault = .errorsReported count) ∨ ∃ path cause, fault = .fault (.io path cause) := by
  obtain ⟨configuration, rfl⟩ := exists_configuration_of_prepare prepared
  rcases ran : outcome (Stage.runAll context configuration.stages) ⟨before, .empty⟩ with
    ⟨cause | _, progress⟩
  · -- A stage ended the run, and those that there are end it only at a file.
    right
    have stagesRan : stagesRun arguments workspace = some (.error cause, progress) := by
      rw [stagesRun, prepared]
      exact congrArg some ran
    rw [outcome_execute_of_error stagesRan] at failed
    cases failed
    rw [configuration.stages_eq] at ran
    obtain ⟨_, failing, _, between, -, -, last⟩ := OutputStage.exists_of_runAll_error ran
    obtain ⟨path, cause, rfl, -⟩ := (OutputStage.fails_of_outcome_error last).exists_io
    exact ⟨path, cause, rfl⟩
  · left
    rw [execute, outcome_bind_ok prepared] at failed
    dsimp only at failed
    rw [outcome_bind_ok (outcome_runStages ran), outcome_bind_ok (outcome_logResult _ _)] at failed
    split_ifs at failed
    · cases failed
      exact ⟨_, rfl⟩
    · cases failed

/-- **Everything is checked first.** Whatever the arguments, the environment, the settings and the
files are: a run that ends in a fault of the checks has added lines to the log, and nothing else in
the workspace has changed: no file, and no program was run. It ends in the same fault, with nothing
else changed, whatever programs there are and whatever these would do. Once a run is prepared, so
before its first stage, nothing else has changed either; its configuration was checked and its entry
points exist; and then the run can only fail with the errors that stages report, or at a file. -/
theorem execute_checks_first (arguments : Arguments) (workspace : Workspace) :
    (∀ fault after, outcome (execute arguments) workspace = (.error fault, after) →
      fault.isFromChecks = true →
      OnlyLogs workspace after ∧
        ∀ other, workspace.SameInputs other →
          ∃ last, outcome (execute arguments) other = (.error fault, last) ∧
            OnlyLogs other last) ∧
    ∀ context stages before,
      outcome (prepare arguments) workspace = (.ok (context, stages), before) →
      OnlyLogs workspace before ∧
      (∃ configuration,
        loadConfiguration arguments (workingDirectory arguments workspace.directoryPath)
          workspace = .ok configuration ∧
        context.options =
          configuration.buildOptions (workingDirectory arguments workspace.directoryPath) ∧
        stages = configuration.stages ∧ IsReady configuration context before) ∧
      ∀ fault after, outcome (execute arguments) workspace = (.error fault, after) →
        (∃ count, fault = .errorsReported count) ∨
          ∃ path cause, fault = .fault (.io path cause) := by
  constructor
  · intro fault after failed early
    rcases prepared : outcome (prepare arguments) workspace with
      ⟨cause | ⟨context, stages⟩, before⟩
    · have ended : outcome (execute arguments) workspace = (.error cause, before) :=
        outcome_bind_error prepared
      cases ended.symm.trans failed
      refine ⟨(onlyLogs_prepare arguments).of_outcome prepared, fun other same => ?_⟩
      rcases others : outcome (prepare arguments) other with ⟨verdict, last⟩
      obtain rfl : .error fault = verdict := by
        have verdicts := outcome_prepare_congr same arguments
        rw [prepared, others] at verdicts
        exact verdicts
      exact ⟨last, outcome_bind_error others, (onlyLogs_prepare arguments).of_outcome others⟩
    · -- Behind the checks there are other faults only.
      rcases fault_of_execute prepared failed with ⟨count, rfl⟩ | ⟨path, cause, rfl⟩
      · cases early
      · cases early
  · intro context stages before prepared
    obtain ⟨configuration, loaded, options, isStages, ready⟩ := exists_isReady_of_prepare prepared
    obtain ⟨lines, rfl⟩ := (onlyLogs_prepare arguments).of_outcome prepared
    exact ⟨⟨lines, rfl⟩,
      ⟨configuration, loaded, options, isStages,
        { globalName := ready.globalName, loadFilter := ready.loadFilter
          timeout := ready.timeout, planned := ready.planned, there := ready.there }⟩,
      fun fault after failed => fault_of_execute prepared failed⟩

/-- A run for a source that the package does not have. -/
def missingArguments : Arguments :=
  { Arguments.empty with entries := [.ofString "src/missing.ts"] }

/-- On the package with a compiler, a run for a missing source ends without a trace outside the log,
and so it does where there is a program that looks up others: it is not run. A run for the source
that is there is prepared and ready, before any file has changed. -/
theorem execute_checks_first_sample :
    (∃ after, outcome (execute missingArguments) unreadablePackage =
        (.error (.entryNotFound (.ofString "/src/missing.ts")), after) ∧
      OnlyLogs unreadablePackage after) ∧
    (∃ last, outcome (execute missingArguments)
        { unreadablePackage with finder := some warningCompiler } =
          (.error (.entryNotFound (.ofString "/src/missing.ts")), last) ∧ last.runs = []) ∧
    ∃ configuration context before, IsReady configuration context before ∧
      before.files = unreadablePackage.files := by
  obtain ⟨refused, -⟩ := execute_checks_first missingArguments unreadablePackage
  obtain ⟨-, ready⟩ := execute_checks_first unreadableArguments unreadablePackage
  rcases ran : outcome (execute missingArguments) unreadablePackage with ⟨verdict, after⟩
  have failed : (outcome (execute missingArguments) unreadablePackage).1 =
      .error (.entryNotFound (.ofString "/src/missing.ts")) := by decide +kernel
  rw [ran] at failed
  obtain rfl : verdict = _ := failed
  obtain ⟨logs, elsewhere⟩ := refused _ _ ran rfl
  refine ⟨⟨after, rfl, logs⟩, ?_, ?_⟩
  · obtain ⟨last, ended, ⟨lines, rfl⟩⟩ :=
      elsewhere { unreadablePackage with finder := some warningCompiler } ⟨fun _ => rfl, rfl, rfl⟩
    exact ⟨_, ended, rfl⟩
  · rcases prepared : outcome (prepare unreadableArguments) unreadablePackage with
      ⟨fault | ⟨context, stages⟩, before⟩
    · have done : (outcome (prepare unreadableArguments) unreadablePackage).1.isOk = true := by
        decide +kernel
      rw [prepared] at done
      cases done
    · obtain ⟨⟨lines, rfl⟩, ⟨configuration, -, -, -, isReady⟩, -⟩ := ready _ _ _ prepared
      exact ⟨configuration, context, _, isReady, rfl⟩

end CommandLine

end BundleFinish
