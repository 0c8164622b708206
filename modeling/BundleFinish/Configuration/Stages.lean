import BundleFinish.Configuration.Basic
import BundleFinish.Declarations.Emission
import BundleFinish.Umd.Directory

/-! # Stages of a configuration

What a configuration has done: declarations first, then wrapping. -/

namespace BundleFinish.Configuration

/-- How declarations are emitted. -/
def emitter (configuration : DeclarationConfiguration) : Declarations.Emitter :=
  { source :=
      match configuration.tsc with
      | some path => .compiler path
      | none => .detect
    target := configuration.target
    module := configuration.module
    declarationMap := configuration.declarationMap
    stripInternal := configuration.stripInternal
    timeoutSecs := configuration.timeoutSecs }

/-- The stages, in the order in which they run. -/
def stages (configuration : Configuration) : List Build.Stage :=
  (if configuration.declarations.enabled then [(emitter configuration.declarations).stage] else [])
    ++ match configuration.umd with
      | some umd => [Umd.stage umd.globalName]
      | none => []

/-- The tracker of a configuration. -/
def tracker (configuration : Configuration) : Except Misconfiguration Build.Tracker :=
  Build.Tracker.ofPattern configuration.loadFilter

end BundleFinish.Configuration
