import BundleFinish.Configuration.Basic
import BundleFinish.Fault

/-! # Checking configurations

What a configuration has to satisfy beyond its written form. The first condition that fails is the
reason: the global name, the load filter, the entry points, the timeout. -/

namespace BundleFinish.Configuration

/-- The conditions on a configuration. -/
def check (configuration : Configuration) : Except Misconfiguration Unit := do
  if let some umd := configuration.umd then
    if let .error cause := Umd.checkGlobalName umd.globalName then
      throw (.globalName cause)
  if let .error cause := Pattern.compile configuration.loadFilter then
    throw (.loadFilter configuration.loadFilter cause)
  if configuration.declarations.enabled ∧ configuration.entryPoints = [] then
    throw .noEntryPoints
  if configuration.declarations.timeoutSecs = 0 then throw .zeroTimeout

/-- Take a configuration out of merged settings and check it. -/
def load (settings : Except Settings.Failure Settings.Setting) : Except Fault Configuration := do
  let settings ← settings.mapError .notLoaded
  let configuration ← (ofSettings settings).mapError .notLoaded
  configuration.check.mapError .misconfigured
  return configuration

end BundleFinish.Configuration
