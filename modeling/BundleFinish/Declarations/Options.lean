import BundleFinish.Files.Path

/-! # Options of one emission

Declarations are emitted with every file on its own: nothing but declarations is written, libraries
are not checked, and imports are not followed. The options fix where a declaration goes and what the
type-checker is called with. -/

namespace BundleFinish.Declarations

/-- The language version that declarations are written for. -/
inductive Target where
  | es2015
  | es2017
  | es2018
  | es2019
  | es2020
  | es2021
  | es2022
  | esNext
  deriving DecidableEq, Repr

namespace Target

/-- The version used where none is chosen. -/
def default : Target := .es2020

/-- The name of a version. -/
def name : Target → String
  | .es2015 => "es2015"
  | .es2017 => "es2017"
  | .es2018 => "es2018"
  | .es2019 => "es2019"
  | .es2020 => "es2020"
  | .es2021 => "es2021"
  | .es2022 => "es2022"
  | .esNext => "esnext"

/-- All versions, the oldest first. -/
def all : List Target :=
  [.es2015, .es2017, .es2018, .es2019, .es2020, .es2021, .es2022, .esNext]

/-- The versions by name. -/
def known : List (String × Target) := all.map fun target => (target.name, target)

/-- A version is found under its name. -/
theorem lookup_name (target : Target) : known.lookup target.name = some target := by
  cases target <;> rfl

end Target

/-- The module system that declarations are written for. -/
inductive ModuleKind where
  | commonJs
  | es2020
  | esNext
  deriving DecidableEq, Repr

namespace ModuleKind

/-- The module system used where none is chosen. -/
def default : ModuleKind := .commonJs

/-- The name of a module system. -/
def name : ModuleKind → String
  | .commonJs => "commonjs"
  | .es2020 => "es2020"
  | .esNext => "esnext"

/-- All module systems. -/
def all : List ModuleKind := [.commonJs, .es2020, .esNext]

/-- The module systems by name. -/
def known : List (String × ModuleKind) := all.map fun kind => (kind.name, kind)

/-- A module system is found under its name. -/
theorem lookup_name (kind : ModuleKind) : known.lookup kind.name = some kind := by
  cases kind <;> rfl

end ModuleKind

/-- What a type-checker is told about one emission. -/
structure Options where
  target : Target
  module : ModuleKind
  rootDir : Path
  outDir : Path
  declarationMap : Bool
  /-- Leave out what is marked as internal. -/
  stripInternal : Bool
  emitDeclarationOnly : Bool
  skipLibCheck : Bool
  isolatedModules : Bool
  noResolve : Bool
  deriving DecidableEq, Repr

namespace Options

/-- Options for an emission of every file on its own. -/
def isolated (rootDir outDir : Path) : Options :=
  { target := .default, module := .default, rootDir, outDir, declarationMap := false
    stripInternal := false, emitDeclarationOnly := true, skipLibCheck := true
    isolatedModules := true, noResolve := true }

/-- Where the declaration of a source goes: below the output directory as the source is below the
root, or directly inside it for a source that is not below the root. -/
def declarationPath (options : Options) (source : Path) : Path :=
  let relative :=
    match source.relativeTo options.rootDir with
    | some below => below
    | none => ⟨source.fileName.getD []⟩
  let output := options.outDir.join relative
  let stem := (output.fileStem.map Utf8.decodeLossy).getD ""
  output.withFileName (Utf8.encode (stem ++ ".d.ts"))

/-- The flag of a switch that is on. -/
def flag (name : String) (isOn : Bool) : List String := if isOn then [name] else []

/-- The arguments that a type-checker is called with: options first, then the files in order. -/
def arguments (options : Options) (files : List Path) : List String :=
  ["--declaration"]
    ++ flag "--emitDeclarationOnly" options.emitDeclarationOnly
    ++ flag "--declarationMap" options.declarationMap
    ++ flag "--skipLibCheck" options.skipLibCheck
    ++ flag "--isolatedModules" options.isolatedModules
    ++ flag "--noResolve" options.noResolve
    ++ ["--target", options.target.name, "--module", options.module.name,
      "--rootDir", options.rootDir.display, "--outDir", options.outDir.display,
      "--pretty", "false"]
    ++ files.map Path.display

end Options

end BundleFinish.Declarations
