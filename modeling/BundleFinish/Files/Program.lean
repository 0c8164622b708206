import BundleFinish.Files.Path

/-! # Programs that can be run

A program is known by what a run of it does: the files it writes, what it prints, and how it ends.
That depends on how it is called and on the files it finds. A run that is cut off prints nothing, but
may have written files. -/

namespace BundleFinish

/-- How a run of a program ends by itself. -/
inductive Ending where
  /-- It exits with a code. -/
  | exit (code : Nat)
  /-- A signal ends it. -/
  | signal (number : Nat)
  deriving DecidableEq, Repr

namespace Ending

/-- A run succeeds when it exits with code zero. -/
def isSuccess (ending : Ending) : Bool := ending == .exit 0

/-- The exit code as reported, with -1 for a run that a signal ended. -/
def reportedCode : Ending → Int
  | .exit code => code
  | .signal _ => -1

end Ending

/-- How a program is called: the directory it works in, and its arguments. -/
structure Call where
  directory : Path
  arguments : List String
  deriving DecidableEq, Repr

/-- What a run that ends has done. -/
structure Execution where
  /-- Files written, with directories made for them where needed. -/
  writes : List (Path × Bytes)
  stdout : Bytes
  stderr : Bytes
  ending : Ending
  deriving DecidableEq, Repr

/-- A program. -/
structure Program where
  /-- Whether the file may be executed at all. -/
  executable : Bool
  /-- What a run does when it is called in some way and finds some contents of files. None stands for
  a run that does not end in its time. -/
  execute : Call → (Path → Option Bytes) → Option Execution
  /-- The files that a run has written when it is cut off. -/
  interrupted : Call → (Path → Option Bytes) → List (Path × Bytes) := fun _ _ => []

end BundleFinish
