import BundleFinish.Declarations.Compiler

/-! # Where a type-checker comes from

A type-checker is looked for when declarations are to be emitted. That there is none is no
failure. -/

namespace BundleFinish.Declarations

/-- Where a type-checker comes from. -/
inductive CheckerSource where
  /-- Look for an installed compiler. -/
  | detect
  /-- The compiler at a path, if there is anything at that path. -/
  | compiler (path : Path)
  /-- A given type-checker. -/
  | fixed (checker : TypeChecker)
  /-- There is none. -/
  | disabled

namespace CheckerSource

/-- The part of the program that writes the log lines of this module. -/
def logTarget : String := "fob_postbuild::dts::checker"

/-- Find the type-checker for a project. -/
def load {ε : Type} (source : CheckerSource) (projectRoot : Path) (timeoutSecs : Nat) :
    Action ε (Option TypeChecker) := do
  match source with
  | .disabled => return none
  | .fixed checker => return some checker
  | .compiler path =>
    if (← get).exists? path then
      return some (Compiler.checker ⟨path, projectRoot, timeoutSecs⟩)
    Action.log .debug logTarget s!"[fob-dts] configured tsc not found at {path.display}"
    return none
  | .detect =>
    match ← Compiler.locate projectRoot with
    | some path =>
      Action.log .debug logTarget s!"[fob-dts] using tsc at {path.display}"
      return some (Compiler.checker ⟨path, projectRoot, timeoutSecs⟩)
    | none =>
      Action.log .debug logTarget "[fob-dts] no type-checker available"
      return none

end CheckerSource

end BundleFinish.Declarations
