import BundleFinish.Build.Stage
import Mathlib.Order.Defs.Unbundled

/-! # What computations come to

A computation on a state is known by its outcome from each state: its value or its error, and the
state that it leaves. The outcome of a compound computation is that of its parts, one after the
other. A relation that every step respects holds between the first and the last state of a run,
however the run ends (`Respects`). -/

namespace BundleFinish

variable {ε δ σ α β : Type}

/-- The value or error that a computation comes to from a state, and the state that it leaves. -/
def outcome (work : ExceptT ε (StateM σ) α) (state : σ) : Except ε α × σ :=
  StateT.run (ExceptT.run work) state

@[simp] theorem outcome_pure (value : α) (state : σ) :
    outcome (pure value : ExceptT ε (StateM σ) α) state = (.ok value, state) := rfl

@[simp] theorem outcome_throw (error : ε) (state : σ) :
    outcome (throw error : ExceptT ε (StateM σ) α) state = (.error error, state) := rfl

@[simp] theorem outcome_get (state : σ) :
    outcome (get : ExceptT ε (StateM σ) σ) state = (.ok state, state) := rfl

@[simp] theorem outcome_set (new state : σ) :
    outcome (set new : ExceptT ε (StateM σ) PUnit) state = (.ok ⟨⟩, new) := rfl

@[simp] theorem outcome_modify (change : σ → σ) (state : σ) :
    outcome (modify change : ExceptT ε (StateM σ) PUnit) state = (.ok ⟨⟩, change state) := rfl

/-- A sequence goes on from the value and the state of its first part, unless that fails. -/
theorem outcome_bind (work : ExceptT ε (StateM σ) α) (next : α → ExceptT ε (StateM σ) β)
    (state : σ) :
    outcome (work >>= next) state =
      match outcome work state with
      | (.ok value, after) => outcome (next value) after
      | (.error error, after) => (.error error, after) := by
  simp only [outcome, ExceptT.run, StateT.run, bind, ExceptT.bind, ExceptT.mk, StateT.bind]
  rcases work state with ⟨value | value, after⟩ <;> rfl

/-- A sequence goes on from what its first part comes to. -/
theorem outcome_bind_ok {work : ExceptT ε (StateM σ) α} {next : α → ExceptT ε (StateM σ) β}
    {state after : σ} {value : α} (done : outcome work state = (.ok value, after)) :
    outcome (work >>= next) state = outcome (next value) after := by
  rw [outcome_bind, done]

/-- A sequence ends where its first part fails. -/
theorem outcome_bind_error {work : ExceptT ε (StateM σ) α} {next : α → ExceptT ε (StateM σ) β}
    {state after : σ} {error : ε} (failed : outcome work state = (.error error, after)) :
    outcome (work >>= next) state = (.error error, after) := by
  rw [outcome_bind, failed]

/-- A sequence that comes to a value went through a value of its first part. -/
theorem exists_of_outcome_bind_ok {work : ExceptT ε (StateM σ) α}
    {next : α → ExceptT ε (StateM σ) β} {state after : σ} {value : β}
    (done : outcome (work >>= next) state = (.ok value, after)) :
    ∃ first between, outcome work state = (.ok first, between) ∧
      outcome (next first) between = (.ok value, after) := by
  rw [outcome_bind] at done
  rcases first : outcome work state with ⟨error | value, between⟩
  · rw [first] at done
    cases done
  · rw [first] at done
    exact ⟨value, between, rfl, done⟩

/-- The verdict of a sequence. -/
theorem fst_outcome_bind (work : ExceptT ε (StateM σ) α) (next : α → ExceptT ε (StateM σ) β)
    (state : σ) :
    (outcome (work >>= next) state).1 =
      (outcome work state).1 >>= fun value =>
        (outcome (next value) (outcome work state).2).1 := by
  rw [outcome_bind]
  rcases outcome work state with ⟨error | value, after⟩ <;> rfl

/-- A sequence of verdicts that is a value went through a value of the first one. -/
theorem exists_of_bind_eq_ok {verdict : Except ε α} {next : α → Except ε β} {value : β}
    (done : verdict >>= next = .ok value) :
    ∃ first, verdict = .ok first ∧ next first = .ok value := by
  rcases verdict with error | first
  · cases done
  · exact ⟨first, rfl, done⟩

/-- A verdict is a value, or it is not. -/
theorem isOk_iff_exists {verdict : Except ε α} :
    verdict.isOk = true ↔ ∃ value, verdict = .ok value := by
  rcases verdict with error | value
  · exact ⟨nofun, nofun⟩
  · exact ⟨fun _ => ⟨value, rfl⟩, fun _ => rfl⟩

/-- A verdict that is changed into a value was a value. -/
theorem exists_of_map_eq_ok {verdict : Except ε α} {change : α → β} {value : β}
    (done : verdict.map change = .ok value) :
    ∃ first, verdict = .ok first ∧ change first = value := by
  rcases verdict with error | first
  · cases done
  · exact ⟨first, rfl, Except.ok.inj done⟩

/-- A verdict with its errors named anew is the same value. -/
theorem eq_ok_of_mapError {verdict : Except ε α} {f : ε → δ} {value : α}
    (done : verdict.mapError f = .ok value) : verdict = .ok value := by
  rcases verdict with error | first
  · cases done
  · cases done
    rfl

/-! ## Computations without errors -/

/-- A computation comes to a value from every state. -/
def Succeeds (work : ExceptT ε (StateM σ) α) : Prop :=
  ∀ state, ∃ value after, outcome work state = (.ok value, after)

namespace Succeeds

theorem pure (value : α) : Succeeds (pure value : ExceptT ε (StateM σ) α) :=
  fun state => ⟨value, state, rfl⟩

theorem get : Succeeds (get : ExceptT ε (StateM σ) σ) := fun state => ⟨state, state, rfl⟩

theorem modify (change : σ → σ) : Succeeds (modify change : ExceptT ε (StateM σ) PUnit) :=
  fun state => ⟨⟨⟩, change state, rfl⟩

theorem bind {work : ExceptT ε (StateM σ) α} {next : α → ExceptT ε (StateM σ) β}
    (first : Succeeds work) (others : ∀ value, Succeeds (next value)) :
    Succeeds (work >>= next) := by
  intro state
  obtain ⟨value, between, done⟩ := first state
  rw [outcome_bind_ok done]
  exact others value between

theorem ite {condition : Prop} [Decidable condition] {yes no : ExceptT ε (StateM σ) α}
    (yesDoes : Succeeds yes) (noDoes : Succeeds no) :
    Succeeds (if condition then yes else no) := by
  by_cases holds : condition
  · rw [if_pos holds]
    exact yesDoes
  · rw [if_neg holds]
    exact noDoes

end Succeeds

/-! ## Relations between the first and the last state -/

/-- Every run of a computation leaves a state that is related to the state from which it ran. -/
def Respects (R : σ → σ → Prop) (work : ExceptT ε (StateM σ) α) : Prop :=
  ∀ state, R state (outcome work state).2

namespace Respects

/-- The relation holds for each run. -/
theorem of_outcome {R : σ → σ → Prop} {work : ExceptT ε (StateM σ) α} (keeps : Respects R work)
    {state after : σ} {reply : Except ε α} (ran : outcome work state = (reply, after)) :
    R state after := by
  have related := keeps state
  rw [ran] at related
  exact related

variable {R : σ → σ → Prop} [IsPreorder σ R]

theorem pure (value : α) : Respects R (pure value : ExceptT ε (StateM σ) α) :=
  fun state => refl_of R state

theorem throw (error : ε) : Respects R (throw error : ExceptT ε (StateM σ) α) :=
  fun state => refl_of R state

theorem get : Respects R (get : ExceptT ε (StateM σ) σ) := fun state => refl_of R state

omit [IsPreorder σ R] in
theorem modify {change : σ → σ} (step : ∀ state, R state (change state)) :
    Respects R (modify change : ExceptT ε (StateM σ) PUnit) := step

/-- A sequence respects what its parts respect, where the second part need only be good for values
that the first part comes to. -/
theorem bind_of {work : ExceptT ε (StateM σ) α} {next : α → ExceptT ε (StateM σ) β}
    (first : Respects R work)
    (others : ∀ value state after, outcome work state = (.ok value, after) →
      Respects R (next value)) :
    Respects R (work >>= next) := by
  intro state
  rw [outcome_bind]
  have before := first state
  rcases ran : outcome work state with ⟨error | value, between⟩
  · rw [ran] at before
    exact before
  · rw [ran] at before
    exact trans_of R before (others value state between ran between)

theorem bind {work : ExceptT ε (StateM σ) α} {next : α → ExceptT ε (StateM σ) β}
    (first : Respects R work) (others : ∀ value, Respects R (next value)) :
    Respects R (work >>= next) :=
  bind_of first fun value _ _ _ => others value

omit [IsPreorder σ R] in
theorem ite {condition : Prop} [Decidable condition] {yes no : ExceptT ε (StateM σ) α}
    (yesKeeps : Respects R yes) (noKeeps : Respects R no) :
    Respects R (if condition then yes else no) := by
  by_cases holds : condition
  · rw [if_pos holds]
    exact yesKeeps
  · rw [if_neg holds]
    exact noKeeps

end Respects

/-- A part of the state is the same before and after. -/
def Keeps (part : σ → α) (before after : σ) : Prop := part after = part before

instance isPreorder_keeps (part : σ → α) : IsPreorder σ (Keeps part) where
  refl _ := rfl
  trans _ _ _ first second := Eq.trans second first

instance isPreorder_invImage {τ : Type} (R : σ → σ → Prop) [IsPreorder σ R] (part : τ → σ) :
    IsPreorder τ (InvImage R part) where
  refl state := refl_of R (part state)
  trans _ _ _ first second := trans_of R first second

/-! ## Actions on a workspace -/

namespace Workspace

/-- A workspace with one more line in its log. -/
def logged (workspace : Workspace) (level : Logging.Level) (target text : String) : Workspace :=
  { workspace with log := workspace.log ++ [⟨level, target, text⟩] }

variable (workspace : Workspace) (level : Logging.Level) (target text : String)

@[simp] theorem files_logged : (workspace.logged level target text).files = workspace.files := rfl

@[simp] theorem directory_logged :
    (workspace.logged level target text).directory = workspace.directory := rfl

@[simp] theorem runs_logged : (workspace.logged level target text).runs = workspace.runs := rfl

@[simp] theorem emissions_logged :
    (workspace.logged level target text).emissions = workspace.emissions := rfl

@[simp] theorem log_logged :
    (workspace.logged level target text).log = workspace.log ++ [⟨level, target, text⟩] := rfl

end Workspace

namespace Action

@[simp] theorem outcome_log (level : Logging.Level) (target text : String)
    (workspace : Workspace) :
    outcome (log level target text : Action ε Unit) workspace =
      (.ok (), workspace.logged level target text) := rfl

@[simp] theorem outcome_attempt (action : Action ε α) (workspace : Workspace) :
    outcome (attempt action : Action δ (Except ε α)) workspace =
      (.ok (outcome action workspace).1, (outcome action workspace).2) := rfl

@[simp] theorem outcome_mapError (f : ε → δ) (action : Action ε α) (workspace : Workspace) :
    outcome (mapError f action) workspace =
      ((outcome action workspace).1.mapError f, (outcome action workspace).2) := rfl

/-- The working directory is told where it is one, and nothing changes. -/
theorem outcome_currentDirectory_cases (workspace : Workspace) :
    (workspace.files.get? workspace.directory = some .directory ∧
      outcome currentDirectory workspace = (.ok workspace.directoryPath, workspace)) ∨
    (workspace.files.get? workspace.directory ≠ some .directory ∧
      outcome currentDirectory workspace = (.error .notFound, workspace)) := by
  rw [currentDirectory, outcome_bind_ok (outcome_get workspace)]
  split
  case h_1 stands => exact .inl ⟨stands, outcome_pure _ _⟩
  case h_2 astray => exact .inr ⟨fun stands => astray stands, outcome_throw _ _⟩

theorem outcome_readText (path : Path) (workspace : Workspace) :
    outcome (readText path) workspace =
      (workspace.files.readText workspace.directory path, workspace) := by
  rw [readText, outcome_bind_ok (outcome_get workspace), outcome_bind_ok (outcome_get workspace)]
  rcases workspace.files.readText workspace.directory path with cause | text <;> rfl

theorem outcome_writeText (path : Path) (text : String) (workspace : Workspace) :
    outcome (writeText path text) workspace =
      match workspace.files.write workspace.directory path (Utf8.encode text) with
      | .ok files => (.ok (), { workspace with files })
      | .error cause => (.error cause, workspace) := by
  rw [writeText, outcome_bind_ok (outcome_get workspace), outcome_bind_ok (outcome_get workspace)]
  rcases workspace.files.write workspace.directory path (Utf8.encode text) with cause | files <;>
    rfl

section Respects

variable {R : Workspace → Workspace → Prop} [IsPreorder Workspace R]

omit [IsPreorder Workspace R] in
theorem respects_attempt {action : Action ε α} (keeps : Respects R action) :
    Respects R (attempt action : Action δ (Except ε α)) := keeps

omit [IsPreorder Workspace R] in
theorem respects_mapError {action : Action ε α} (f : ε → δ) (keeps : Respects R action) :
    Respects R (mapError f action) := keeps

theorem respects_currentDirectory : Respects R currentDirectory := by
  intro workspace
  rcases outcome_currentDirectory_cases workspace with ⟨-, asked⟩ | ⟨-, asked⟩
  · rw [asked]
    exact refl_of R workspace
  · rw [asked]
    exact refl_of R workspace

theorem respects_readText (path : Path) : Respects R (readText path) := by
  intro workspace
  rw [outcome_readText]
  exact refl_of R workspace

theorem respects_writeText (step : ∀ workspace files, R workspace { workspace with files })
    (path : Path) (text : String) : Respects R (writeText path text) := by
  intro workspace
  rw [outcome_writeText]
  rcases workspace.files.write workspace.directory path (Utf8.encode text) with cause | files
  · exact refl_of R workspace
  · exact step workspace files

end Respects

end Action

/-! ## Work of a stage -/

namespace Build.Work

@[simp] theorem outcome_onWorkspace (action : Action Fault α) (progress : Progress) :
    outcome (onWorkspace action) progress =
      ((outcome action progress.workspace).1,
        { progress with workspace := (outcome action progress.workspace).2 }) := rfl

/-- Acting on the workspace leaves the workspace that the action leaves. -/
theorem outcome_onWorkspace_of {action : Action Fault α} {workspace after : Workspace}
    {reply : Except Fault α} (ran : outcome action workspace = (reply, after)) (result : Result) :
    outcome (onWorkspace action) ⟨workspace, result⟩ = (reply, ⟨after, result⟩) := by
  rw [outcome_onWorkspace, ran]

/-- Acting on the workspace changes nothing else. -/
theorem outcome_onWorkspace_eq_iff {action : Action Fault α} {progress after : Progress}
    {reply : Except Fault α} :
    outcome (onWorkspace action) progress = (reply, after) ↔
      outcome action progress.workspace = (reply, after.workspace) ∧
        after.result = progress.result := by
  rw [outcome_onWorkspace, Prod.ext_iff, Prod.ext_iff]
  obtain ⟨workspace, result⟩ := after
  simp only [Progress.mk.injEq]
  constructor
  · rintro ⟨replied, left, same⟩
    exact ⟨⟨replied, left⟩, same.symm⟩
  · rintro ⟨⟨replied, left⟩, same⟩
    exact ⟨replied, left, same.symm⟩

@[simp] theorem outcome_log (level : Logging.Level) (target text : String)
    (progress : Progress) :
    outcome (log level target text) progress =
      (.ok (), { progress with workspace := progress.workspace.logged level target text }) := rfl

@[simp] theorem outcome_hasErrors (progress : Progress) :
    outcome hasErrors progress = (.ok progress.result.hasErrors, progress) := rfl

@[simp] theorem outcome_pushError (message : Message) (progress : Progress) :
    outcome (pushError message) progress =
      (.ok (), { progress with result := progress.result.pushError message }) := rfl

@[simp] theorem outcome_pushWarning (message : Message) (progress : Progress) :
    outcome (pushWarning message) progress =
      (.ok (), { progress with result := progress.result.pushWarning message }) := rfl

@[simp] theorem outcome_directoryPath (progress : Progress) :
    outcome directoryPath progress = (.ok progress.workspace.directoryPath, progress) := rfl

/-- What an action respects of the workspace holds for a build that does it. -/
theorem respects_onWorkspace {R : Workspace → Workspace → Prop} {action : Action Fault α}
    (keeps : Respects R action) :
    Respects (InvImage R Progress.workspace) (onWorkspace action) :=
  fun progress => keeps progress.workspace

end Build.Work

end BundleFinish
