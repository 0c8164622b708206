import BundleFinish.Declarations.Options
import BundleFinish.Proofs.Encoding
import Mathlib.Data.List.Basic

/-! # The arguments of a compiler

A compiler is told everything in one list of words: switches that are there or not, options with
their values, and the files. The list is read from its front, where every word is known by its place
(`Declarations.Options.ofArguments?`), so a path may look like any flag. What is read is what the
list was made of, except that nothing is said about leaving out what is internal; and lists that
were made of different things are different (`Declarations.Options.arguments_eq_iff`). -/

namespace BundleFinish.Declarations.Options

variable {name other : String} {rest : List String}

/-! ## Reading switches -/

/-- Read a switch at the front of words: whether it is there, and the words behind it. -/
def readFlag (name : String) : List String → Bool × List String
  | [] => (false, [])
  | word :: rest => if word = name then (true, rest) else (false, word :: rest)

/-- A switch is read as it was given, in front of words that do not begin with it. -/
theorem readFlag_flag (absent : rest.head? ≠ some name) (isOn : Bool) :
    readFlag name (flag name isOn ++ rest) = (isOn, rest) := by
  cases isOn with
  | true => exact if_pos rfl
  | false =>
    rcases rest with _ | ⟨word, others⟩
    · rfl
    · exact if_neg fun same => absent (congrArg some same)

/-- Words that begin with no other switch do not begin with one behind a switch either. -/
theorem head?_flag_ne (differ : name ≠ other) (absent : rest.head? ≠ some other) (isOn : Bool) :
    (flag name isOn ++ rest).head? ≠ some other := by
  cases isOn with
  | true => exact fun same => differ (Option.some.inj same)
  | false => exact absent

/-! ## Reading arguments -/

/-- Read the arguments behind the switches, by their places. -/
def readValues? (emitDeclarationOnly declarationMap skipLibCheck isolatedModules noResolve : Bool) :
    List String → Option (Options × List Path)
  | _ :: target :: _ :: kind :: _ :: rootDir :: _ :: outDir :: _ :: _ :: files => do
    let target ← Target.known.lookup target
    let module ← ModuleKind.known.lookup kind
    return ({ target, module, rootDir := .ofString rootDir, outDir := .ofString outDir
              declarationMap, stripInternal := false, emitDeclarationOnly, skipLibCheck
              isolatedModules, noResolve }, files.map .ofString)
  | _ => none

/-- Read the arguments of a compiler: what it was told, and the files. -/
def ofArguments? (words : List String) : Option (Options × List Path) :=
  let emitDeclarationOnly := readFlag "--emitDeclarationOnly" words.tail
  let declarationMap := readFlag "--declarationMap" emitDeclarationOnly.2
  let skipLibCheck := readFlag "--skipLibCheck" declarationMap.2
  let isolatedModules := readFlag "--isolatedModules" skipLibCheck.2
  let noResolve := readFlag "--noResolve" isolatedModules.2
  readValues? emitDeclarationOnly.1 declarationMap.1 skipLibCheck.1 isolatedModules.1 noResolve.1
    noResolve.2

/-- All paths of a call are text. -/
structure AreText (options : Options) (files : List Path) : Prop where
  rootDir : options.rootDir.IsText
  outDir : options.outDir.IsText
  files : ∀ file ∈ files, file.IsText

/-- Paths that are text are spelled by what is shown of them. -/
theorem map_ofString_display {files : List Path} (areText : ∀ file ∈ files, file.IsText) :
    (files.map Path.display).map Path.ofString = files := by
  rw [List.map_map]
  exact (List.map_congr_left fun file member => (areText file member).ofString_display).trans
    (List.map_id files)

variable {options others : Options} {files more : List Path}

/-- The arguments behind the switches. -/
def valueWords (options : Options) (files : List Path) : List String :=
  "--target" :: options.target.name :: "--module" :: options.module.name ::
    "--rootDir" :: options.rootDir.display :: "--outDir" :: options.outDir.display ::
    "--pretty" :: "false" :: files.map Path.display

/-- The arguments are the switches, and what comes behind them. -/
theorem arguments_eq (options : Options) (files : List Path) :
    options.arguments files =
      "--declaration" :: (flag "--emitDeclarationOnly" options.emitDeclarationOnly ++
        (flag "--declarationMap" options.declarationMap ++
          (flag "--skipLibCheck" options.skipLibCheck ++
            (flag "--isolatedModules" options.isolatedModules ++
              (flag "--noResolve" options.noResolve ++ options.valueWords files))))) := by
  simp only [arguments, valueWords, List.append_assoc, List.cons_append, List.nil_append]

/-- The arguments behind the switches begin with the name of an option. -/
theorem head?_valueWords_ne (differ : "--target" ≠ other) :
    (options.valueWords files).head? ≠ some other :=
  fun same => differ (Option.some.inj same)

/-- The arguments behind the switches are read as they were given. -/
theorem readValues?_valueWords (areText : AreText options files)
    (emitDeclarationOnly declarationMap skipLibCheck isolatedModules noResolve : Bool) :
    readValues? emitDeclarationOnly declarationMap skipLibCheck isolatedModules noResolve
        (options.valueWords files) =
      some ({ options with
        declarationMap, stripInternal := false, emitDeclarationOnly, skipLibCheck, isolatedModules
        noResolve }, files) := by
  show (Target.known.lookup options.target.name >>= fun target =>
    ModuleKind.known.lookup options.module.name >>= fun kind => _) = _
  rw [Target.lookup_name, ModuleKind.lookup_name]
  simp only [bind, Option.bind, pure, areText.rootDir.ofString_display,
    areText.outDir.ofString_display, map_ofString_display areText.files]

/-- **Reading arguments.** What is read is what a compiler was told, in every point but what is
internal, and the files in their order. -/
theorem ofArguments?_arguments (areText : AreText options files) :
    ofArguments? (options.arguments files) =
      some ({ options with stripInternal := false }, files) := by
  -- No switch is followed by its own name: only others come behind it, and then an option.
  rw [arguments_eq, ofArguments?, List.tail_cons, readFlag_flag, readFlag_flag, readFlag_flag,
    readFlag_flag, readFlag_flag]
  · exact readValues?_valueWords areText _ _ _ _ _
  all_goals
    repeat refine head?_flag_ne (by decide) ?_ _
    exact head?_valueWords_ne (by decide)

/-- The files come behind all options. -/
theorem arguments_eq_append (options : Options) (files : List Path) :
    options.arguments files = options.arguments [] ++ files.map Path.display := by
  simp only [arguments, List.map_nil, List.append_nil]

/-- What is internal is not spoken of. -/
theorem arguments_stripInternal (options : Options) (files : List Path) (stripInternal : Bool) :
    ({ options with stripInternal } : Options).arguments files = options.arguments files := rfl

/-- **The arguments of a compiler** say what they were made of. Two calls whose paths are text have
the same arguments exactly where they have the same files in the same order and the same options,
but for leaving out what is internal, of which nothing is said. The files are the last arguments,
one for each and spelled as they are, behind options that do not depend on them; so the whole call
can be read back from its arguments. -/
theorem arguments_eq_iff (areText : AreText options files) :
    (∀ (others : Options) (more : List Path), AreText others more →
      (options.arguments files = others.arguments more ↔
        files = more ∧ { options with stripInternal := others.stripInternal } = others)) ∧
    ofArguments? (options.arguments files) =
      some ({ options with stripInternal := false }, files) ∧
    options.arguments files = options.arguments [] ++ files.map Path.display ∧
    (files.map Path.display).map Path.ofString = files := by
  refine ⟨fun others more areText' => ⟨fun same => ?_, ?_⟩, ofArguments?_arguments areText,
    arguments_eq_append options files, map_ofString_display areText.files⟩
  · have read := ofArguments?_arguments areText
    rw [same, ofArguments?_arguments areText'] at read
    obtain ⟨sameOptions, sameFiles⟩ := Prod.mk.inj (Option.some.inj read)
    exact ⟨sameFiles.symm, congrArg
      (fun read : Options => { read with stripInternal := others.stripInternal }) sameOptions.symm⟩
  · rintro ⟨rfl, agree⟩
    rw [← arguments_stripInternal options files others.stripInternal, agree]

/-- Options with directories that are called as flags are. -/
def flagLike : Options :=
  { isolated (.ofString "--outDir") (.ofString "--noResolve") with noResolve := false }

theorem arguments_eq_iff_sample :
    flagLike.arguments [.ofString "--noResolve", .ofString "--pretty"] ≠
        ({ flagLike with noResolve := true } : Options).arguments [.ofString "--pretty"] ∧
      ofArguments? (flagLike.arguments [.ofString "--noResolve", .ofString "--pretty"]) =
        some (flagLike, [.ofString "--noResolve", .ofString "--pretty"]) := by
  have areText : AreText flagLike [.ofString "--noResolve", .ofString "--pretty"] :=
    ⟨by decide +kernel, by decide +kernel, by decide +kernel⟩
  have areText' : AreText { flagLike with noResolve := true } [.ofString "--pretty"] :=
    ⟨by decide +kernel, by decide +kernel, by decide +kernel⟩
  obtain ⟨distinct, read, -⟩ := arguments_eq_iff areText
  exact ⟨(distinct _ _ areText').not.mpr (by decide +kernel), read⟩

end BundleFinish.Declarations.Options
