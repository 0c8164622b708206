import BundleFinish.Proofs.AbsolutePaths
import BundleFinish.Proofs.EmissionOutcomes
import BundleFinish.Proofs.Resolution

/-! # The compiler that was found

A compiler is looked for from the working directory of the process, and started in the directory of
the project. There its path is read anew: a relative one leads from the project, and one without a
slash is no path at all, but a name that leads wherever the search path has a program of that name.
So what runs is the file that was found exactly if the path has a slash and leads from the project to
that file, or the search path leads to that file. An absolute path does so always, and an installed
compiler is found under an absolute path in every build
(`Declarations.Compiler.startsFileAt_iff`). -/

namespace BundleFinish

open Build (Context)

/-! ## Absolute paths -/

namespace Path

variable {path : Path}

/-- An absolute path has a slash. -/
theorem slash_mem_of_isAbsolute (absolute : path.isAbsolute = true) : slash ∈ path.octets :=
  List.mem_of_head? (by simpa [isAbsolute] using absolute)

/-- The directory of an absolute path is absolute. -/
theorem isAbsolute_of_parent {above : Path} (absolute : path.isAbsolute = true)
    (parent : path.parent = some above) : above.isAbsolute = true := by
  unfold Path.parent at parent
  split at parent
  · cases parent
  · cases parent
    rw [absolute]
    rfl

/-- An absolute path has absolute directories only. -/
theorem isAbsolute_of_mem_ancestors {above : Path} (absolute : path.isAbsolute = true)
    (member : above ∈ path.ancestors) : above.isAbsolute = true := by
  unfold ancestors at member
  generalize path.octets.length = count at member
  induction count generalizing path with
  | zero =>
    rw [List.mem_singleton.mp member]
    exact absolute
  | succ count ih =>
    rw [ancestorsFrom] at member
    rcases parent : path.parent with _ | directory
    · rw [parent] at member
      rw [List.mem_singleton.mp member]
      exact absolute
    · rw [parent] at member
      rcases List.mem_cons.mp member with rfl | further
      · exact absolute
      · exact ih (isAbsolute_of_parent absolute parent) further

/-- What stands behind an absolute path is absolute. -/
theorem isAbsolute_join_of_isAbsolute {directory : Path} (absolute : directory.isAbsolute = true)
    (path : Path) : (directory.join path).isAbsolute = true := by
  rcases relative : path.isAbsolute with _ | _
  · rwa [isAbsolute_join (octets_ne_nil_of_isAbsolute absolute) relative]
  · rwa [join, if_pos relative]

end Path

/-- An absolute path leads to the same place from everywhere. -/
theorem FileTree.find_of_isAbsolute (tree : FileTree) {path : Path}
    (absolute : path.isAbsolute = true) (here there : Location) :
    tree.find here path = tree.find there path := by
  simp only [find, locate, if_pos absolute]

/-! ## Starting a file -/

namespace Workspace

variable {workspace : Workspace} {program directory : Path} {place below : Location}
  {arguments : List String}

/-- What is started for a place and a directory: the program that stands at that place. -/
def startableAt (workspace : Workspace) (place : Location) (directory : Path)
    (arguments : List String) : Except IoError (Option Location × Program × Location) := do
  if directory.octets.contains 0 ∨ arguments.any (·.toList.contains '\x00') then
    throw zeroOctetInCall
  let below ← workspace.directoryAt directory
  let (place, program) ← workspace.programStandingAt place
  return (place, program, below)

/-- A program that is started is the one that its name leads to from the directory of the call. -/
theorem of_startable_eq_ok {standing : Option Location} {found : Program}
    (started : workspace.startable program directory arguments = .ok (standing, found, below)) :
    workspace.directoryAt directory = .ok below ∧
      workspace.programAt below program = .ok (standing, found) := by
  unfold startable at started
  split_ifs at started
  · cases started
  · obtain ⟨there, led, started⟩ := exists_of_bind_eq_ok started
    obtain ⟨⟨standing, other⟩, named, same⟩ := exists_of_bind_eq_ok started
    cases same
    exact ⟨led, named⟩

/-- A process in a directory takes a path for what stands at a place. -/
inductive Reaches (workspace : Workspace) (below : Location) (path : Path) (place : Location) :
    Prop where
  /-- It has a slash, and leads from that directory to the place. -/
  | led (slash : Path.slash ∈ path.octets) {node : Node}
      (leads : workspace.files.find below path = .ok (place, node))
  /-- It is a bare name, and the search path leads to the place. -/
  | searched (bare : Path.slash ∉ path.octets) (unknown : workspace.knownProgram? path = none)
      (leads : workspace.searched below path = .ok place)

/-- A path that is taken for what stands at a place leads to the program there. -/
theorem programAt_of_reaches (reaches : workspace.Reaches below program place) :
    workspace.programAt below program = workspace.programStandingAt place := by
  cases reaches with
  | led slash leads => rw [programAt, if_pos (by simpa using slash), leads]
  | searched bare unknown leads =>
    rw [programAt, if_neg (by simpa using bare), unknown]
    dsimp only
    rw [leads]

/-- The program that stands at a place has that place. -/
theorem eq_some_of_programStandingAt {standing : Option Location} {found : Program}
    (stands : workspace.programStandingAt place = .ok (standing, found)) :
    standing = some place := by
  unfold programStandingAt at stands
  split at stands
  · split_ifs at stands
    cases stands
    rfl
  · cases stands

/-- A path that leads to a program at a place is taken for what stands there. -/
theorem reaches_of_programAt {found : Program}
    (named : workspace.programAt below program = .ok (some place, found)) :
    workspace.Reaches below program place := by
  unfold programAt at named
  split_ifs at named with slash
  · rcases leads : workspace.files.find below program with cause | ⟨location, node⟩
    · rw [leads] at named
      cases named
    · rw [leads] at named
      obtain rfl := Option.some.inj (eq_some_of_programStandingAt named)
      exact .led (by simpa using slash) leads
  · rcases unknown : workspace.knownProgram? program with _ | known
    · rw [unknown] at named
      dsimp only at named
      rcases leads : workspace.searched below program with cause | location
      · rw [leads] at named
        cases named
      · rw [leads] at named
        obtain rfl := Option.some.inj (eq_some_of_programStandingAt named)
        exact .searched (by simpa using slash) unknown leads
    · -- A program outside of the file tree has no place in it.
      rw [unknown] at named
      dsimp only at named
      split_ifs at named
      cases named

/-- A directory that a process can work in has no octet zero in its path. -/
theorem zero_not_mem_of_directoryAt (inside : workspace.directoryAt directory = .ok below) :
    0 ∉ directory.octets := by
  unfold directoryAt at inside
  split at inside
  case h_1 led => exact (FileTree.locate_eq_ok_iff.mp (FileTree.locate_of_find led)).1
  all_goals cases inside

/-- What is started stands at a place exactly where the path is taken for that. -/
theorem eq_some_iff_reaches {standing : Option Location} {found : Program}
    (started : workspace.startable program directory arguments = .ok (standing, found, below)) :
    standing = some place ↔ workspace.Reaches below program place := by
  obtain ⟨-, named⟩ := of_startable_eq_ok started
  constructor
  · rintro rfl
    exact reaches_of_programAt named
  · intro reaches
    -- The program is the one that stands there, and that one has its place.
    rw [programAt_of_reaches reaches] at named
    exact eq_some_of_programStandingAt named

/-- Where a path is taken for what stands at a place, that is what is started. -/
theorem startable_of_reaches (noZero : 0 ∉ program.octets)
    (reaches : ∀ below, workspace.directoryAt directory = .ok below →
      workspace.Reaches below program place) (arguments : List String) :
    workspace.startable program directory arguments =
      workspace.startableAt place directory arguments := by
  unfold startable startableAt
  have noZero : program.octets.contains 0 = false := by simpa using noZero
  simp only [noZero, Bool.false_eq_true, false_or]
  split_ifs
  · rfl
  · rcases there : workspace.directoryAt directory with cause | below
    · rfl
    · simp only [bind, Except.bind, programAt_of_reaches (reaches below there)]

end Workspace

/-- A run of what is started for a program is the only one that may be added. -/
theorem Action.runs_execute (limit : Nat) (program directory : Path) (arguments : List String)
    (workspace : Workspace) :
    (outcome (execute limit program directory arguments) workspace).2.runs = workspace.runs ∨
      ∃ place found below,
        workspace.startable program directory arguments = .ok (place, found, below) ∧
        (outcome (execute limit program directory arguments) workspace).2.runs =
          workspace.runs ++ [⟨place, ⟨below.path, arguments⟩⟩] := by
  rw [execute, outcome_bind_ok (outcome_get workspace)]
  rcases workspace.startable program directory arguments with cause | ⟨place, found, below⟩
  · exact .inl rfl
  · dsimp only
    split
    · exact .inl rfl
    · exact .inr ⟨place, found, below, rfl, rfl⟩

/-! ## Finding a compiler and starting it -/

namespace Declarations

/-- A source finds a compiler for a project from a workspace, and leaves a workspace: the one it
names, where there is something at its path; the nearest installed one; or where there is none, the
one that the program that looks up others knows. -/
inductive CheckerSource.Finds (projectRoot : Path) (before : Workspace) :
    CheckerSource → Path → Workspace → Prop where
  | named {path : Path} (there : before.exists? path = true) :
      Finds projectRoot before (.compiler path) path before
  | installed {path : Path} (nearest : Compiler.nearest? before projectRoot = some path) :
      Finds projectRoot before .detect path before
  | lookedUp {path : Path} {after : Workspace}
      (none : Compiler.nearest? before projectRoot = none)
      (answered : outcome (Compiler.lookUp : Action Fault _) before = (.ok (some path), after)) :
      Finds projectRoot before .detect path after

/-- A compiler that is found is the type-checker. -/
theorem CheckerSource.Finds.outcome_load {source : CheckerSource} {projectRoot path : Path}
    {before found : Workspace} (finds : source.Finds projectRoot before path found)
    (timeoutSecs : Nat) :
    ∃ log, outcome (source.load projectRoot timeoutSecs : Action Fault _) before =
      (.ok (some (Compiler.checker ⟨path, projectRoot, timeoutSecs⟩)), { found with log }) := by
  cases finds with
  | named there =>
    refine ⟨before.log, ?_⟩
    rw [load, outcome_bind_ok (outcome_get _), if_pos there]
    rfl
  | installed nearest => exact ⟨_, outcome_load_of_nearest nearest timeoutSecs⟩
  | lookedUp none answered =>
    have located : outcome (Compiler.locate projectRoot : Action Fault _) before =
        (.ok (some path), found) := by
      rw [Compiler.locate, outcome_bind_ok (outcome_get _), none]
      exact answered
    exact ⟨_, (outcome_bind_ok located).trans rfl⟩

/-- A type-checker that is not a given one is a compiler that is found. -/
theorem CheckerSource.exists_finds_of_outcome_load {source : CheckerSource} {projectRoot : Path}
    {timeoutSecs : Nat} {before after : Workspace} {checker : TypeChecker}
    (notGiven : ∀ given, source ≠ .fixed given)
    (loaded : outcome (source.load projectRoot timeoutSecs : Action Fault _) before =
      (.ok (some checker), after)) :
    ∃ path found, source.Finds projectRoot before path found ∧
      checker = Compiler.checker ⟨path, projectRoot, timeoutSecs⟩ := by
  cases source with
  | disabled => cases loaded
  | fixed given => exact absurd rfl (notGiven given)
  | compiler path =>
    rw [load, outcome_bind_ok (outcome_get _)] at loaded
    by_cases there : before.exists? path = true
    · rw [if_pos there] at loaded
      cases loaded
      exact ⟨path, before, .named there, rfl⟩
    · rw [if_neg there] at loaded
      cases loaded
  | detect =>
    obtain ⟨located, found, search, loaded⟩ := exists_of_outcome_bind_ok loaded
    rcases located with _ | path
    · cases loaded
    have chosen : checker = Compiler.checker ⟨path, projectRoot, timeoutSecs⟩ := by
      cases loaded
      rfl
    rw [Compiler.locate, outcome_bind_ok (outcome_get _)] at search
    rcases nearest : Compiler.nearest? before projectRoot with _ | standing
    · rw [nearest] at search
      exact ⟨path, found, .lookedUp nearest search, chosen⟩
    · rw [nearest] at search
      cases search
      exact ⟨path, before, .installed nearest, chosen⟩

namespace Compiler

/-- An installed compiler has an absolute path, for a project with an absolute one. -/
theorem isAbsolute_of_nearest? {workspace : Workspace} {projectRoot path : Path}
    (absolute : projectRoot.isAbsolute = true)
    (nearest : nearest? workspace projectRoot = some path) : path.isAbsolute = true := by
  obtain ⟨directory, above, rfl⟩ := List.mem_map.mp (List.mem_of_find?_eq_some nearest)
  have directoryAbsolute := Path.isAbsolute_of_mem_ancestors absolute above
  exact Path.isAbsolute_join_of_isAbsolute (Path.isAbsolute_join_of_isAbsolute
    (Path.isAbsolute_join_of_isAbsolute directoryAbsolute _) _) _

/-- The project of a build has an absolute path. -/
theorem isAbsolute_projectRoot (context : Context) {directory : Path}
    (absolute : directory.isAbsolute = true) :
    (Emitter.projectRoot context directory).isAbsolute = true :=
  context.options.isAbsolute_resolve absolute context.options.cwd

/-- From a workspace, a compiler is started as the file at a place would be, whatever it is called
for. -/
def StartsFileAt (compiler : Compiler) (workspace : Workspace) (place : Location) : Prop :=
  ∀ files (options : Options),
    workspace.startable compiler.program compiler.projectRoot (options.arguments files) =
      workspace.startableAt place compiler.projectRoot (options.arguments files)

/-- The runs behind an emission are those behind the run of the program. -/
theorem runs_emit (compiler : Compiler) (files : List Path) (options : Options)
    (workspace : Workspace) :
    ∃ log, (outcome (compiler.emit files options) workspace).2.runs =
      (outcome (compiler.start files options) { workspace with log }).2.runs := by
  let words := " ".intercalate (options.arguments files)
  let logged := workspace.logged .debug logTarget
    s!"[fob-dts] {compiler.program.display} {words}"
  refine ⟨logged.log, ?_⟩
  change _ = (outcome (compiler.start files options) logged).2.runs
  rw [emit, outcome_bind_ok (Action.outcome_log _ _ _ _)]
  rcases started : outcome (compiler.start files options) logged with ⟨cause | finished, after⟩
  · have renamed : outcome (Action.mapError CheckerError.notStarted
        (compiler.start files options)) logged = (.error (.notStarted cause), after) := by
      rw [Action.outcome_mapError, started]
      rfl
    exact congrArg (fun ended : Except CheckerError Emitted × Workspace => ended.2.runs)
      (outcome_bind_error renamed)
  · have renamed : outcome (Action.mapError CheckerError.notStarted
        (compiler.start files options)) logged = (.ok finished, after) := by
      rw [Action.outcome_mapError, started]
      rfl
    refine (congrArg (fun ended : Except CheckerError Emitted × Workspace => ended.2.runs)
      (outcome_bind_ok renamed)).trans ?_
    rcases finished with _ | execution
    · rfl
    · dsimp only
      rcases diagnosticsOf execution with cause | diagnostics <;> rfl

variable {compiler : Compiler} {files : List Path} {options : Options}
  {workspace found : Workspace}

/-- A compiler that is started and ends in time leaves one more run. -/
theorem runs_emit_of_startable {place : Option Location} {program : Program} {below : Location}
    {execution : Execution}
    (started : workspace.startable compiler.program compiler.projectRoot
      (options.arguments files) = .ok (place, program, below))
    (inTime : compiler.timeoutSecs ≠ 0)
    (ran : program.execute ⟨below.path, options.arguments files⟩ (workspace.contentFrom below) =
      some execution) :
    (outcome (compiler.emit files options) workspace).2.runs =
      workspace.runs ++ [⟨place, ⟨below.path, options.arguments files⟩⟩] := by
  obtain ⟨log, runs⟩ := compiler.runs_emit files options workspace
  have startable : ({ workspace with log } : Workspace).startable compiler.program
      compiler.projectRoot (options.arguments files) = .ok (place, program, below) := started
  rw [runs, start, Action.outcome_execute_of_startable startable inTime ran]
  rfl

/-- A run that an emission adds is one of what is started for the compiler. -/
theorem startable_of_runs_emit {run : Run}
    (added : (outcome (compiler.emit files options) workspace).2.runs = workspace.runs ++ [run]) :
    ∃ program below, workspace.startable compiler.program compiler.projectRoot
      (options.arguments files) = .ok (run.place, program, below) := by
  obtain ⟨log, runs⟩ := compiler.runs_emit files options workspace
  rw [runs, start] at added
  rcases Action.runs_execute compiler.timeoutSecs compiler.program compiler.projectRoot
    (options.arguments files) { workspace with log } with
    unchanged | ⟨place, program, below, started, left⟩
  · rw [unchanged] at added
    simp at added
  · rw [left] at added
    obtain rfl := List.singleton_inj.mp (List.append_cancel_left added)
    exact ⟨program, below, started⟩

/-- A compiler whose path is taken for what stands at a place is started as the file there. -/
theorem startsFileAt_of_reaches {place : Location} (noZero : 0 ∉ compiler.program.octets)
    (reaches : ∀ below, found.directoryAt compiler.projectRoot = .ok below →
      found.Reaches below compiler.program place) : compiler.StartsFileAt found place :=
  fun _ _ => Workspace.startable_of_reaches noZero reaches _

/-- A compiler that is started as a file that can be executed has a path that is taken for it. -/
theorem reaches_of_startsFileAt {place below : Location} {content : Bytes} {program : Program}
    (starts : compiler.StartsFileAt found place)
    (stands : found.files.get? place = some (.file content (some program)))
    (executable : program.executable = true)
    (inside : found.directoryAt compiler.projectRoot = .ok below) :
    found.Reaches below compiler.program place := by
  -- Any call will do that can be made at all: here one for no sources.
  let arguments := (Options.isolated .root .root).arguments []
  have callable : ¬(compiler.projectRoot.octets.contains 0 = true ∨
      arguments.any (·.toList.contains '\x00') = true) := by
    rintro (zero | zero)
    · exact Workspace.zero_not_mem_of_directoryAt inside (by simpa using zero)
    · exact absurd zero (by decide)
  have standing : found.programStandingAt place = .ok (some place, program) := by
    rw [Workspace.programStandingAt, stands]
    exact if_pos executable
  have started : found.startable compiler.program compiler.projectRoot arguments =
      .ok (some place, program, below) := by
    rw [starts [] (.isolated .root .root), Workspace.startableAt, if_neg callable, inside]
    simp only [bind, Except.bind, standing]
    rfl
  exact (Workspace.eq_some_iff_reaches started).mp rfl

/-- **The compiler that was found.** A type-checker that a source loads, and that is not a given one,
is the compiler at a path at which the source finds one. Where this path leads from the working
directory to a place, the compiler is started as the file there if, and for a file that can be
executed only if, the path is taken for that place in the directory of the project: it has a slash
and leads to the place, or it is a bare name and the search path does. A run that an emission adds is
a run of that file exactly then. An absolute path is always taken for the place, and so is any path
with a slash where the project is the working directory. A build that looks for installed compilers
finds them under absolute paths. -/
theorem startsFileAt_iff {source : CheckerSource} {projectRoot : Path} {timeoutSecs : Nat}
    {checker : TypeChecker} {before after : Workspace} (notGiven : ∀ given, source ≠ .fixed given)
    (loaded : outcome (source.load projectRoot timeoutSecs : Action Fault _) before =
      (.ok (some checker), after)) :
    ∃ path found log, source.Finds projectRoot before path found ∧ after = { found with log } ∧
      let compiler : Compiler := ⟨path, projectRoot, timeoutSecs⟩
      checker = compiler.checker ∧
      (∀ context, projectRoot = Emitter.projectRoot context before.directoryPath →
        nearest? before projectRoot = some path → path.isAbsolute = true) ∧
      ∀ place node, after.files.find after.directory path = .ok (place, node) →
        let reached : Prop := ∀ below, after.directoryAt projectRoot = .ok below →
          after.Reaches below path place
        (reached → compiler.StartsFileAt after place) ∧
        (∀ content program, node = .file content (some program) → program.executable = true →
          compiler.StartsFileAt after place → reached) ∧
        (path.isAbsolute = true ∨
          (Path.slash ∈ path.octets ∧ after.directoryAt projectRoot = .ok after.directory) →
          reached) ∧
        ∀ files (options : Options),
          (reached → ∀ program below execution,
            after.startableAt place projectRoot (options.arguments files) =
              .ok (some place, program, below) →
            timeoutSecs ≠ 0 →
            program.execute ⟨below.path, options.arguments files⟩ (after.contentFrom below) =
              some execution →
            (outcome (checker.emit files options) after).2.runs =
              after.runs ++ [⟨some place, ⟨below.path, options.arguments files⟩⟩]) ∧
          ∀ run, (outcome (checker.emit files options) after).2.runs = after.runs ++ [run] →
            ∃ below, after.directoryAt projectRoot = .ok below ∧
              (run.place = some place ↔ after.Reaches below path place) := by
  obtain ⟨path, found, finds, rfl⟩ := source.exists_finds_of_outcome_load notGiven loaded
  obtain ⟨log, load⟩ := finds.outcome_load timeoutSecs
  have left : after = { found with log } := congrArg Prod.snd (loaded.symm.trans load)
  refine ⟨path, found, log, finds, left, rfl, ?_, fun place node led => ?_⟩
  · rintro context rfl nearest
    exact isAbsolute_of_nearest?
      (isAbsolute_projectRoot context before.directory.isAbsolute_path) nearest
  have noZero : 0 ∉ path.octets :=
    (FileTree.locate_eq_ok_iff.mp (FileTree.locate_of_find led)).1
  refine ⟨fun reached => startsFileAt_of_reaches noZero reached, ?_, ?_, ?_⟩
  · rintro content program rfl executable starts below inside
    exact reaches_of_startsFileAt starts (FileTree.get?_of_find led) executable inside
  · rintro (absolute | ⟨slash, inside⟩) below there
    · have leads := led
      rw [after.files.find_of_isAbsolute absolute after.directory below] at leads
      exact .led (Path.slash_mem_of_isAbsolute absolute) leads
    · obtain rfl := Except.ok.inj (inside.symm.trans there)
      exact .led slash led
  · refine fun files options => ⟨fun reached program below execution started inTime ran => ?_,
      fun run added => ?_⟩
    · rw [← Workspace.startable_of_reaches noZero reached] at started
      exact runs_emit_of_startable started inTime ran
    obtain ⟨program, below, started⟩ := startable_of_runs_emit added
    exact ⟨below, (Workspace.of_startable_eq_ok started).1,
      Workspace.eq_some_iff_reaches started⟩

/-! ## A compiler beside the project -/

/-- A package in the directory `pkg`, and a compiler in the directory `tools` beside it, which the
search path holds. -/
def toolbox : Workspace :=
  { Workspace.start
      (.ofNodes [([Utf8.encode "pkg"], .directory),
        ([Utf8.encode "tools"], .directory),
        ([Utf8.encode "tools", Utf8.encode "tsc"],
          .file [] (some (Emitter.printingCompiler "" (.exit 0))))])
      [Utf8.encode "tools"] [] none with
    search := fun _ _ name => .ok [Utf8.encode "tools", name.octets] }

/-- Where that compiler stands. -/
def toolPlace : Location := [Utf8.encode "tools", Utf8.encode "tsc"]

/-- How it is called for the package. -/
def toolOptions : Options := .isolated (.ofString "/pkg/src") (.ofString "/pkg/dist")

/-- Under its absolute path, and under its bare name, that compiler is started for the package, and
its run is recorded. -/
theorem startsFileAt_sample :
    let started : String → Prop := fun name =>
      let compiler : Compiler := ⟨.ofString name, .ofString "/pkg", 120⟩
      compiler.StartsFileAt toolbox toolPlace ∧
        (outcome (compiler.emit [.ofString "/pkg/src/a.ts"] toolOptions) toolbox).2.runs =
          [⟨some toolPlace, .ofString "/pkg", toolOptions.arguments [.ofString "/pkg/src/a.ts"]⟩]
    started "/tools/tsc" ∧ started "tsc" := by
  intro started
  have starts : ∀ name, toolbox.exists? (.ofString name) = true →
      toolbox.files.find toolbox.directory (.ofString name) =
        .ok (toolPlace, .file [] (some (Emitter.printingCompiler "" (.exit 0)))) →
      toolbox.Reaches [Utf8.encode "pkg"] (.ofString name) toolPlace → started name := by
    intro name there led reaches
    have loaded : outcome ((CheckerSource.compiler (.ofString name)).load (.ofString "/pkg") 120 :
        Action Fault _) toolbox =
        (.ok (some (Compiler.checker ⟨.ofString name, .ofString "/pkg", 120⟩)), toolbox) := by
      rw [CheckerSource.load, outcome_bind_ok (outcome_get _), if_pos there]
      rfl
    obtain ⟨path, found, log, finds, -, -, -, leads⟩ := startsFileAt_iff (by rintro given ⟨⟩) loaded
    cases finds with
    | named =>
      obtain ⟨starts, -, -, emits⟩ := leads toolPlace _ led
      have reached : ∀ below, toolbox.directoryAt (.ofString "/pkg") = .ok below →
          toolbox.Reaches below (.ofString name) toolPlace := by
        rintro below ⟨⟩
        exact reaches
      obtain ⟨runs, -⟩ := emits [.ofString "/pkg/src/a.ts"] toolOptions
      exact ⟨starts reached, runs reached _ [Utf8.encode "pkg"] _ rfl (by decide) rfl⟩
  have absolute : Path.slash ∈ (Path.ofString "/tools/tsc").octets := by decide
  have bare : Path.slash ∉ (Path.ofString "tsc").octets := by decide
  exact ⟨starts _ (by decide) rfl (.led absolute rfl),
    starts _ (by decide) rfl (.searched bare rfl rfl)⟩

/-- A compiler that is found is not always started: one that is spelled from the working directory
does not stand there for a project elsewhere. -/
theorem not_forall_startsFileAt :
    ¬∀ (source : CheckerSource) (projectRoot path : Path) (timeoutSecs : Nat)
        (before after : Workspace) (place : Location) (content : Bytes) (program : Program),
      outcome (source.load projectRoot timeoutSecs : Action Fault _) before =
        (.ok (some (Compiler.checker ⟨path, projectRoot, timeoutSecs⟩)), after) →
      after.files.find after.directory path = .ok (place, .file content (some program)) →
      program.executable = true →
      (⟨path, projectRoot, timeoutSecs⟩ : Compiler).StartsFileAt after place := by
  intro always
  have there : toolbox.exists? (.ofString "./tsc") = true := by decide
  have loaded : outcome ((CheckerSource.compiler (.ofString "./tsc")).load (.ofString "/pkg") 120 :
      Action Fault _) toolbox =
      (.ok (some (Compiler.checker ⟨.ofString "./tsc", .ofString "/pkg", 120⟩)), toolbox) := by
    rw [CheckerSource.load, outcome_bind_ok (outcome_get _), if_pos there]
    rfl
  have starts := always _ _ _ _ _ _ toolPlace [] _ loaded rfl rfl
  have started := congrArg Except.isOk (starts [] (.isolated .root .root))
  exact absurd started (by decide)

end Compiler

end Declarations

end BundleFinish
