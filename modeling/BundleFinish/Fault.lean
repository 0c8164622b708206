import BundleFinish.Files.IoError
import BundleFinish.Files.Path
import BundleFinish.Pattern.Compiled
import BundleFinish.Settings.Failure
import BundleFinish.Umd.GlobalName

/-! # Faults

What stops a build: a configuration that makes no sense, settings that cannot be loaded, or a file
that cannot be read and written back. -/

namespace BundleFinish

/-- Why a configuration makes no sense. -/
inductive Misconfiguration where
  | globalName (cause : Umd.GlobalNameError)
  | loadFilter (pattern : String) (cause : Pattern.CompileError)
  /-- A pattern that was given to a tracker directly. -/
  | trackerFilter (pattern : String) (cause : Pattern.CompileError)
  | noEntryPoints
  | zeroTimeout
  /-- Any other reason, in its own words. -/
  | other (text : String)
  deriving DecidableEq, Repr

/-- The words for a reason. -/
def Misconfiguration.message : Misconfiguration → String
  | .globalName cause => cause.message
  | .loadFilter pattern cause => s!"invalid load_filter '{pattern}': {cause.message}"
  | .trackerFilter pattern cause => s!"invalid load filter '{pattern}': {cause.message}"
  | .noEntryPoints => "declaration emission needs at least one entry point"
  | .zeroTimeout => "dts.timeout_secs must be greater than zero"
  | .other text => text

/-- What stops a build. -/
inductive Fault where
  | misconfigured (cause : Misconfiguration)
  | io (path : Path) (cause : IoError)
  | notLoaded (failure : Settings.Failure)
  deriving DecidableEq, Repr

namespace Fault

/-- The words for a fault. -/
def message : Fault → String
  | .misconfigured cause => s!"Invalid configuration: {cause.message}"
  | .io path cause => s!"I/O error on {path.display}: {cause.message}"
  | .notLoaded failure => s!"Failed to load configuration: {failure.message}"

/-- The name of the kind of a fault. -/
def code : Fault → String
  | .misconfigured _ => "INVALID_CONFIG"
  | .io .. => "IO_ERROR"
  | .notLoaded _ => "CONFIG_LOAD"

/-- What to do about a fault. -/
def help : Fault → String
  | .misconfigured cause =>
    s!"Check your configuration file for invalid values.\nError: {cause.message}"
  | .io path _ =>
    s!"Failed to rewrite '{path.display}'. Check disk space and permissions; "
      ++ "the output directory may be partially processed and should be rebuilt."
  | .notLoaded _ => "Check fob-postbuild.json syntax and FOB_POSTBUILD_* environment variables"

/-- The words for what is behind a fault. -/
def causes : Fault → List String
  | .misconfigured _ => []
  | .io _ cause => [cause.message]
  | .notLoaded failure => [failure.message]

end Fault

end BundleFinish
