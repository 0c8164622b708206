import BundleFinish.Configuration.Basic
import BundleFinish.Text.Quoted

/-! # Configurations in the log

The whole of a configuration in one line, for somebody who looks for errors. -/

namespace BundleFinish.Configuration

/-- Fields of a record with their names. -/
def describeRecord (name : String) (fields : List (String × String)) : String :=
  name ++ " \x7b " ++ ", ".intercalate (fields.map fun (field, value) => field ++ ": " ++ value)
    ++ " \x7d"

/-- A value that may be missing. -/
def describeOption : Option String → String
  | some value => "Some(" ++ value ++ ")"
  | none => "None"

/-- A path. -/
def describePath (path : Path) : String := Text.quoted path.display

/-- A list. -/
def describeList (items : List String) : String := "[" ++ ", ".intercalate items ++ "]"

/-- A language version. -/
def describeTarget : Declarations.Target → String
  | .es2015 => "Es2015"
  | .es2017 => "Es2017"
  | .es2018 => "Es2018"
  | .es2019 => "Es2019"
  | .es2020 => "Es2020"
  | .es2021 => "Es2021"
  | .es2022 => "Es2022"
  | .esNext => "EsNext"

/-- A module system. -/
def describeModule : Declarations.ModuleKind → String
  | .commonJs => "CommonJs"
  | .es2020 => "Es2020"
  | .esNext => "EsNext"

/-- How declarations are emitted. -/
def describeDeclarations (configuration : DeclarationConfiguration) : String :=
  describeRecord "DtsConfig" [
    ("enabled", toString configuration.enabled),
    ("target", describeTarget configuration.target),
    ("module", describeModule configuration.module),
    ("declaration_map", toString configuration.declarationMap),
    ("strip_internal", toString configuration.stripInternal),
    ("tsc", describeOption (configuration.tsc.map describePath)),
    ("timeout_secs", toString configuration.timeoutSecs)]

/-- How scripts are wrapped. -/
def describeUmd (configuration : UmdConfiguration) : String :=
  describeRecord "UmdConfig" [("global_name", Text.quoted configuration.globalName)]

/-- A configuration. -/
def describe (configuration : Configuration) : String :=
  describeRecord "PostBuildConfig" [
    ("entry_points", describeList (configuration.entryPoints.map describePath)),
    ("cwd", describeOption (configuration.cwd.map describePath)),
    ("root_dir", describePath configuration.rootDir),
    ("out_dir", describePath configuration.outDir),
    ("load_filter", Text.quoted configuration.loadFilter),
    ("dts", describeDeclarations configuration.declarations),
    ("umd", describeOption (configuration.umd.map describeUmd))]

end BundleFinish.Configuration
