/-! # What a build reports

Stages append errors and warnings to the result of a build; nothing that was appended is changed
later. -/

namespace BundleFinish.Build

/-- A place in a file. -/
structure Location where
  file : String
  line : Nat
  column : Nat
  deriving DecidableEq, Repr

/-- One error or warning. -/
structure Message where
  /-- What kind of message it is. -/
  id : String
  /-- The stage that reports it. -/
  stage : String
  text : String
  location : Option Location
  deriving DecidableEq, Repr

/-- A message as one line: the stage, the place if there is one, and the text. -/
def Message.display (message : Message) : String :=
  match message.location with
  | some place =>
    s!"[{message.stage}] {place.file}:{place.line}:{place.column}: {message.text}"
  | none => s!"[{message.stage}] {message.text}"

/-- The errors and warnings of a build so far. -/
structure Result where
  errors : List Message
  warnings : List Message
  deriving DecidableEq, Repr

namespace Result

/-- Nothing reported. -/
def empty : Result := ⟨[], []⟩

/-- Whether an error was reported. -/
def hasErrors (result : Result) : Bool := !result.errors.isEmpty

/-- Report an error. -/
def pushError (result : Result) (message : Message) : Result :=
  { result with errors := result.errors ++ [message] }

/-- Report a warning. -/
def pushWarning (result : Result) (message : Message) : Result :=
  { result with warnings := result.warnings ++ [message] }

@[simp] theorem errors_pushError (result : Result) (message : Message) :
    (result.pushError message).errors = result.errors ++ [message] := rfl

@[simp] theorem warnings_pushError (result : Result) (message : Message) :
    (result.pushError message).warnings = result.warnings := rfl

@[simp] theorem errors_pushWarning (result : Result) (message : Message) :
    (result.pushWarning message).errors = result.errors := rfl

@[simp] theorem warnings_pushWarning (result : Result) (message : Message) :
    (result.pushWarning message).warnings = result.warnings ++ [message] := rfl

@[simp] theorem hasErrors_pushError (result : Result) (message : Message) :
    (result.pushError message).hasErrors = true := by
  simp [hasErrors]

end Result

end BundleFinish.Build
