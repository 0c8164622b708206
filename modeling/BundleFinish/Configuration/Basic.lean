import BundleFinish.Build.Tracked
import BundleFinish.Declarations.Options
import BundleFinish.JsonText.Record
import BundleFinish.Settings.Extract

/-! # Configurations

A configuration says what is done with the output of a build. It has a written form, in which every
part may be left out. -/

namespace BundleFinish

/-- How declarations are emitted. -/
structure DeclarationConfiguration where
  enabled : Bool
  target : Declarations.Target
  module : Declarations.ModuleKind
  declarationMap : Bool
  stripInternal : Bool
  /-- The type-checker to use, looked up where none is named. -/
  tsc : Option Path
  timeoutSecs : Nat
  deriving DecidableEq, Repr

/-- How scripts are wrapped. -/
structure UmdConfiguration where
  /-- The global variable where there is no module loader. -/
  globalName : String
  deriving DecidableEq, Repr

/-- What is done with the output of a build. -/
structure Configuration where
  entryPoints : List Path
  cwd : Option Path
  rootDir : Path
  outDir : Path
  /-- The pattern of the paths that are tracked. -/
  loadFilter : String
  declarations : DeclarationConfiguration
  /-- How scripts are wrapped, where they are. -/
  umd : Option UmdConfiguration
  deriving DecidableEq, Repr

/-- How long a type-checker may run, in seconds. -/
def defaultTimeoutSecs : Nat := 120

/-- The largest number of seconds. -/
def maxTimeoutSecs : Nat := 18446744073709551615

namespace DeclarationConfiguration

/-- Declarations are emitted unless the configuration says otherwise. -/
def default : DeclarationConfiguration :=
  { enabled := true, target := .default, module := .default, declarationMap := false
    stripInternal := false, tsc := none, timeoutSecs := defaultTimeoutSecs }

/-- The written form. -/
def schema : Schema DeclarationConfiguration :=
  .record "DtsConfig" default <|
    .field "enabled" .never .bool (·.enabled) (fun record enabled => { record with enabled }) <|
    .field "target" .never
      (.variant "EsTarget" Declarations.Target.known Declarations.Target.name) (·.target)
      (fun record target => { record with target }) <|
    .field "module" .never
      (.variant "ModuleKind" Declarations.ModuleKind.known Declarations.ModuleKind.name) (·.module)
      (fun record module => { record with module := module }) <|
    .field "declaration_map" .never .bool (·.declarationMap)
      (fun record declarationMap => { record with declarationMap }) <|
    .field "strip_internal" .never .bool (·.stripInternal)
      (fun record stripInternal => { record with stripInternal }) <|
    .optionalField "tsc" .path (·.tsc) (fun record tsc => { record with tsc }) <|
    .field "timeout_secs" .never (.natural maxTimeoutSecs "u64") (·.timeoutSecs)
      (fun record timeoutSecs => { record with timeoutSecs })
    .nil

end DeclarationConfiguration

namespace UmdConfiguration

/-- The written form. -/
def schema : Schema UmdConfiguration :=
  .record "UmdConfig" { globalName := "" } <|
    .field "global_name" .always (.text "a string") (·.globalName)
      (fun record globalName => { record with globalName })
    .nil

end UmdConfiguration

namespace Configuration

/-- The configuration of somebody who configures nothing. -/
def default : Configuration :=
  { entryPoints := [], cwd := none, rootDir := .ofString "src", outDir := .ofString "dist"
    loadFilter := Build.Tracker.standardPattern, declarations := .default, umd := none }

/-- The written form. -/
def schema : Schema Configuration :=
  .record "PostBuildConfig" default <|
    .field "entry_points" .never (.list .path) (·.entryPoints)
      (fun record entryPoints => { record with entryPoints }) <|
    .optionalField "cwd" .path (·.cwd) (fun record cwd => { record with cwd }) <|
    .field "root_dir" .never .path (·.rootDir) (fun record rootDir => { record with rootDir }) <|
    .field "out_dir" .never .path (·.outDir) (fun record outDir => { record with outDir }) <|
    .field "load_filter" .never (.text "a string") (·.loadFilter)
      (fun record loadFilter => { record with loadFilter }) <|
    .field "dts" .never DeclarationConfiguration.schema (·.declarations)
      (fun record declarations => { record with declarations }) <|
    .optionalField "umd" UmdConfiguration.schema (·.umd) (fun record umd => { record with umd })
    .nil

/-- Read a configuration. -/
def ofJson (text : String) : Except JsonText.Failure Configuration := schema.ofJson text

/-- Write a configuration. -/
def toJson (configuration : Configuration) : String := schema.toJson configuration

/-- Take a configuration out of merged settings. -/
def ofSettings (settings : Settings.Setting) : Except Settings.Failure Configuration :=
  schema.extract [] settings

/-- The options of the build; a base directory that is not absolute is below the fallback. -/
def buildOptions (configuration : Configuration) (fallback : Path) : Build.Options :=
  { cwd :=
      match configuration.cwd with
      | some cwd => fallback.join cwd
      | none => fallback
    rootDir := configuration.rootDir
    outDir := configuration.outDir
    entryPoints := configuration.entryPoints }

end Configuration

end BundleFinish
