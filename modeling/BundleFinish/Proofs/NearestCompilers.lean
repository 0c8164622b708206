import BundleFinish.Proofs.Encoding
import BundleFinish.Proofs.ExportCandidates
import BundleFinish.Proofs.ProbedCompilers
import Mathlib.Data.List.Infix

/-! # The nearest compiler

A compiler is looked for in the directories of installed packages, from a project upwards. The
directories above an absolute path are its nonempty prefixes, so they are told apart by their
depths, and the deepest one that has a compiler is the one whose compiler is found, without any
process. Only where there is none the program that looks up others is run, once, and the first line
that it printed and that is not blank is the path of the compiler
(`Declarations.Compiler.locate_nearest`). -/

namespace BundleFinish

/-! ## The directories above a path -/

namespace Path

variable {path : Path}

/-- Pieces between slashes are no more than the octets and one. -/
theorem length_splitSlash_le (octets : Bytes) : (splitSlash octets).length ≤ octets.length + 1 := by
  induction octets with
  | nil => exact Nat.le_refl _
  | cons octet rest ih =>
    unfold splitSlash
    split_ifs
    · simpa using ih
    · rcases pieces : splitSlash rest with _ | ⟨piece, others⟩
      · exact Nat.le_add_left _ _
      · rw [pieces] at ih
        simp only [List.length_cons] at ih ⊢
        omega

/-- An absolute path has no more components than octets and one. -/
theorem length_components_le (absolute : path.isAbsolute = true) :
    path.components.length ≤ path.octets.length + 1 := by
  have counted : (componentsOf path.pieces).length ≤ path.pieces.length := by
    simpa [componentsOf] using List.length_filter_le Piece.counts path.pieces
  have split : path.pieces.length = (splitSlash path.octets.tail).length := by
    rw [pieces, if_pos absolute, List.length_map]
  have bound := length_splitSlash_le path.octets.tail
  have some := List.length_pos_iff.mpr (octets_ne_nil_of_isAbsolute absolute)
  rw [components_of_isAbsolute absolute, List.length_cons]
  rw [List.length_tail] at bound
  omega

/-- Where enough directories are followed, the components of an absolute path and of its
directories are the nonempty prefixes of its components, the longest first. -/
theorem reverse_map_components_ancestorsFrom {count : Nat} (absolute : path.isAbsolute = true)
    (bound : path.components.length ≤ count + 1) :
    ((ancestorsFrom count path).map components).reverse = path.components.inits.tail := by
  induction count generalizing path with
  | zero =>
    have alone : path.components = [.root] := by
      rw [components_of_isAbsolute absolute] at bound ⊢
      rw [List.length_cons] at bound
      have none : (componentsOf path.pieces).length = 0 := by omega
      rw [List.length_eq_zero_iff.mp none]
    rw [ancestorsFrom, List.map_singleton, alone]
    rfl
  | succ count ih =>
    rw [ancestorsFrom]
    rcases parent_cases absolute with ⟨isRoot, none⟩ | ⟨above, last, parent, aboveAbsolute, shape⟩
    · rw [none, isRoot, List.map_singleton, isRoot]
      rfl
    · have shorter : above.components.length ≤ count + 1 := by
        rw [shape, List.length_append, List.length_singleton] at bound
        omega
      have some : above.components.inits ≠ [] := List.ne_nil_of_mem ((List.mem_inits _ _).mpr
        List.nil_prefix)
      rw [parent, List.map_cons, List.reverse_cons, ih aboveAbsolute shorter, shape,
        List.inits_append, List.tail_append_of_ne_nil some]
      rfl

/-- The components of an absolute path and of its directories are the nonempty prefixes of its
components. -/
theorem reverse_map_components_ancestors (absolute : path.isAbsolute = true) :
    (path.ancestors.map components).reverse = path.components.inits.tail :=
  reverse_map_components_ancestorsFrom absolute (length_components_le absolute)

/-- Prefixes are listed from the shortest to the longest. -/
theorem pairwise_length_inits {α : Type} (items : List α) :
    items.inits.Pairwise fun a b => a.length < b.length := by
  induction items with
  | nil => exact List.pairwise_singleton _ _
  | cons item others ih =>
    rw [List.inits_cons, List.pairwise_cons, List.pairwise_map]
    refine ⟨?_, ih.imp fun shorter => by simpa using shorter⟩
    intro longer member
    obtain ⟨rest, -, rfl⟩ := List.mem_map.mp member
    exact Nat.succ_pos _

/-- Each of the directories of an absolute path is less deep than those before it. -/
theorem pairwise_ancestors (absolute : path.isAbsolute = true) :
    path.ancestors.Pairwise fun a b => b.components.length < a.components.length := by
  have upwards := (pairwise_length_inits path.components).tail
  rw [← reverse_map_components_ancestors absolute, List.pairwise_reverse,
    List.pairwise_map] at upwards
  exact upwards

/-- The first directory with a property is the deepest one. -/
theorem find?_map_ancestors {p : Path → Bool} {place : Path → Path}
    (absolute : path.isAbsolute = true) {directory : Path} (above : directory ∈ path.ancestors)
    (has : p (place directory) = true)
    (deepest : ∀ other ∈ path.ancestors, p (place other) = true →
      other.components.length ≤ directory.components.length) :
    (path.ancestors.map place).find? p = some (place directory) := by
  obtain ⟨before, behind, shape⟩ := List.append_of_mem above
  have deeper := pairwise_ancestors absolute
  rw [shape, List.pairwise_append] at deeper
  refine List.find?_eq_some_iff_append.mpr
    ⟨has, before.map place, behind.map place, by rw [shape]; simp, fun candidate member => ?_⟩
  obtain ⟨other, inBefore, rfl⟩ := List.mem_map.mp member
  rw [Bool.not_eq_true', ← Bool.not_eq_true]
  intro hasToo
  have here := deepest other (shape ▸ List.mem_append_left _ inBefore) hasToo
  have there := deeper.2.2 other inBefore directory List.mem_cons_self
  omega

end Path

/-! ## Trimmed texts -/

namespace Text

/-- A text falls into a part that begins and ends with no white space, and white space around it. -/
def Trims (text kept : List Char) : Prop :=
  ∃ front back, text = front ++ kept ++ back ∧ isBlankText front = true ∧
    isBlankText back = true ∧ (∀ first ∈ kept.head?, isBlank first = false) ∧
    ∀ last ∈ kept.getLast?, isBlank last = false

/-- White space in front of a text that begins with none is dropped. -/
theorem dropWhile_append_of_isBlankText {front kept : List Char}
    (blank : isBlankText front = true) (shown : ∀ first ∈ kept.head?, isBlank first = false) :
    (front ++ kept).dropWhile isBlank = kept := by
  rw [List.dropWhile_append_of_pos (isBlankText_iff.mp blank)]
  rcases kept with _ | ⟨first, rest⟩
  · rfl
  · rw [List.dropWhile_cons_of_neg (by simp [shown first rfl])]

/-- Trimming leaves the part between the white space. -/
theorem trimChars_eq_iff {text kept : List Char} : trimChars text = kept ↔ Trims text kept := by
  constructor
  · rintro rfl
    obtain ⟨front, back, blankFront, blankBack, shape⟩ := Umd.exists_trimChars text
    refine ⟨front, back, shape, blankFront, blankBack, fun first isFirst => ?_,
      fun last isLast => ?_⟩
    · obtain ⟨rest, trimmed⟩ := List.head?_eq_some_iff.mp isFirst
      exact Umd.isBlank_of_trimChars_eq_cons trimmed
    · have fails := List.head?_dropWhile_not isBlank (text.dropWhile isBlank).reverse
      rw [trimChars, trimEndChars, List.getLast?_reverse, Option.mem_def] at isLast
      rw [isLast] at fails
      simpa using fails
  · rintro ⟨front, back, rfl, blankFront, blankBack, first, last⟩
    rcases kept with _ | ⟨c, rest⟩
    · refine trimChars_eq_nil_iff.mpr ?_
      rw [isBlankText_iff] at blankFront blankBack ⊢
      intro c member
      rw [List.append_nil] at member
      exact (List.mem_append.mp member).elim (blankFront c) (blankBack c)
    · have blankEnd : isBlankText back.reverse = true := by
        simpa [isBlankText] using blankBack
      have shown : ∀ first ∈ (c :: rest ++ back).head?, isBlank first = false := first
      have shownEnd : ∀ first ∈ (c :: rest).reverse.head?, isBlank first = false := by
        rwa [List.head?_reverse]
      rw [trimChars, List.append_assoc, dropWhile_append_of_isBlankText blankFront shown,
        trimEndChars, List.reverse_append, dropWhile_append_of_isBlankText blankEnd shownEnd,
        List.reverse_reverse]

end Text

namespace Declarations.Compiler

variable {ε : Type} {workspace : Workspace} {projectRoot path : Path}

/-- Where the compiler stands below the directory in which it is installed. -/
def installedSteps : List Path.Component :=
  [.name (Utf8.encode "node_modules"), .name (Utf8.encode ".bin"), .name (Utf8.encode programName)]

/-- The components of the path of an installed compiler. -/
theorem components_installedIn (directory : Path) :
    (installedIn directory).components = directory.components ++ installedSteps := by
  have bin : Path.isName (Utf8.encode ".bin") = true := by decide
  have modules : Path.isName (Utf8.encode "node_modules") = true := by decide
  have program : Path.isName (Utf8.encode programName) = true := by decide
  rw [installedIn, Path.joinText, Path.joinText, Path.joinText, Path.ofString, Path.ofString,
    Path.ofString, Path.components_join_name _ program, Path.components_join_name _ bin,
    Path.components_join_name _ modules, List.append_assoc, List.append_assoc]
  rfl

/-! ## What the program that looks up others answers -/

/-- A path is answered by an output: it is the first line that is not blank, without the white space
around it. -/
def Answers (output : Bytes) (path : Path) : Prop :=
  ∃ text before line behind kept, Utf8.decode? output = some text ∧
    Text.lines text.toList = before ++ line :: behind ∧
    (∀ above ∈ before, Text.isBlankText above = true) ∧
    Text.Trims line kept ∧ kept ≠ [] ∧ path = .ofString (String.ofList kept)

/-- The first trimmed line that is not empty is that of the first line that is not blank. -/
theorem find?_map_trimChars_eq_some_iff {lines : List (List Char)} {kept : List Char} :
    (lines.map Text.trimChars).find? (· ≠ []) = some kept ↔
      ∃ before line behind, lines = before ++ line :: behind ∧
        (∀ above ∈ before, Text.isBlankText above = true) ∧ Text.Trims line kept ∧ kept ≠ [] := by
  rw [List.find?_eq_some_iff_append]
  constructor
  · rintro ⟨some, front, back, shape, blank⟩
    obtain ⟨before, rest, rfl, rfl, trimmed⟩ := List.map_eq_append_iff.mp shape
    obtain ⟨line, behind, rfl, kept, -⟩ := List.map_eq_cons_iff.mp trimmed
    refine ⟨before, line, behind, rfl, fun above member => ?_, Text.trimChars_eq_iff.mp kept,
      by simpa using some⟩
    have empty := blank _ (List.mem_map_of_mem member)
    exact Text.trimChars_eq_nil_iff.mp (by simpa using empty)
  · rintro ⟨before, line, behind, rfl, blank, trims, some⟩
    refine ⟨by simpa using some, before.map Text.trimChars, behind.map Text.trimChars, ?_, ?_⟩
    · rw [List.map_append, List.map_cons, Text.trimChars_eq_iff.mpr trims]
    · intro trimmed member
      obtain ⟨above, inBefore, rfl⟩ := List.mem_map.mp member
      simpa using Text.trimChars_eq_nil_iff.mpr (blank above inBefore)

/-- The path in an output is the one that it answers. -/
theorem answeredPath?_eq_some_iff {output : Bytes} :
    answeredPath? output = some path ↔ Answers output path := by
  unfold answeredPath? Answers
  rcases Utf8.decode? output with _ | text
  · simp
  · rcases found : ((Text.lines text.toList).map Text.trimChars).find? (· ≠ []) with _ | kept
    · simp only [Option.bind_eq_bind, Option.bind_some, found, Option.bind_none]
      constructor
      · exact nofun
      · rintro ⟨_, before, line, behind, kept, same, shape, blank, trims, some, -⟩
        cases same
        rw [find?_map_trimChars_eq_some_iff.mpr ⟨before, line, behind, shape, blank, trims, some⟩]
          at found
        cases found
    · simp only [Option.bind_eq_bind, Option.bind_some, found]
      constructor
      · intro same
        obtain ⟨before, line, behind, shape, blank, trims, some⟩ :=
          find?_map_trimChars_eq_some_iff.mp found
        exact ⟨text, before, line, behind, kept, rfl, shape, blank, trims, some,
          (Option.some.inj same).symm⟩
      · rintro ⟨_, before, line, behind, other, same, shape, blank, trims, some, rfl⟩
        cases same
        rw [find?_map_trimChars_eq_some_iff.mpr ⟨before, line, behind, shape, blank, trims, some⟩]
          at found
        rw [Option.some.inj found]
        rfl

/-! ## The search -/

/-- Where no compiler is installed, the one that is found is that of the program that looks up
others. -/
theorem outcome_locate_of_nearest?_eq_none (none : nearest? workspace projectRoot = none) :
    outcome (locate projectRoot : Action ε (Option Path)) workspace =
      outcome (lookUp : Action ε (Option Path)) workspace := by
  rw [locate, outcome_bind_ok (outcome_get _), none]

/-- **The nearest compiler.** The directories in which an installed compiler is looked for are an
absolute project and those above it, up to the root. The one that is found stands in the deepest
directory that has one, and then nothing is run. Where no directory has one, the program that looks
up others is run exactly once, if it can be run at all, and a compiler is found exactly if the run
succeeds and prints text with a line that is not blank: the first such line, trimmed, is its
path. -/
theorem locate_nearest (absolute : projectRoot.isAbsolute = true) (workspace : Workspace) :
    let has : Path → Prop := fun directory => workspace.exists? (installedIn directory) = true
    let located := outcome (locate projectRoot : Action ε (Option Path)) workspace
    (projectRoot.ancestors.map Path.components).reverse = projectRoot.components.inits.tail ∧
    (∀ directory, (installedIn directory).components = directory.components ++ installedSteps) ∧
    (∀ directory ∈ projectRoot.ancestors, has directory →
      (∀ other ∈ projectRoot.ancestors, has other →
        other.components.length ≤ directory.components.length) →
      located = (.ok (some (installedIn directory)), workspace)) ∧
    ((∀ directory ∈ projectRoot.ancestors, ¬has directory) →
      (∀ place execution, LooksUp workspace place execution →
        let run : Run := ⟨place, ⟨workspace.directoryPath, [programName]⟩⟩
        ∃ found,
          located = (.ok found, workspace.afterRun run workspace.directory execution) ∧
          located.2.runs = workspace.runs ++ [run] ∧
          ∀ path, found = some path ↔
            execution.ending.isSuccess = true ∧ Answers execution.stdout path) ∧
      ((∀ place execution, ¬LooksUp workspace place execution) →
        located = (.ok none, workspace))) := by
  refine ⟨Path.reverse_map_components_ancestors absolute, components_installedIn,
    fun directory above has deepest => ?_, fun none => ?_⟩
  · have nearest : nearest? workspace projectRoot = some (installedIn directory) :=
      Path.find?_map_ancestors absolute above has deepest
    rw [locate, outcome_bind_ok (outcome_get _), nearest]
    rfl
  · have missing : nearest? workspace projectRoot = .none := by
      refine List.find?_eq_none.mpr fun candidate member => ?_
      obtain ⟨directory, above, rfl⟩ := List.mem_map.mp member
      exact none directory above
    rw [outcome_locate_of_nearest?_eq_none missing]
    refine ⟨fun place execution looksUp => ?_, outcome_lookUp_of_not_looksUp⟩
    rw [outcome_lookUp_of_looksUp looksUp]
    refine ⟨_, rfl, rfl, fun path => ?_⟩
    rw [← answeredPath?_eq_some_iff]
    rcases execution.ending.isSuccess with _ | _ <;> simp

/-! ## Compilers in a package and in one below it -/

/-- A place that is named by the text of a relative path. -/
def placeOf (text : String) : Location := Path.splitSlash (Utf8.encode text)

/-- A package with a compiler, a package below it with a compiler of its own, and a program that
looks up others, which prints an empty line before its answer. -/
def nested : Workspace :=
  .start
    (.ofNodes [(placeOf "pkg", .directory),
      (placeOf "pkg/node_modules", .directory),
      (placeOf "pkg/node_modules/.bin", .directory),
      (placeOf "pkg/node_modules/.bin/tsc", .file [] none),
      (placeOf "pkg/sub", .directory),
      (placeOf "pkg/sub/node_modules", .directory),
      (placeOf "pkg/sub/node_modules/.bin", .directory),
      (placeOf "pkg/sub/node_modules/.bin/tsc", .file [] none)])
    [] [] (some (Emitter.printingCompiler "\n /opt/tsc\n" (.exit 0)))

/-- For a project in the lower package its own compiler is found; for one outside of the packages
the program that looks up others is run, and its answer is found. -/
theorem locate_nearest_sample :
    outcome (locate (.ofString "/pkg/sub/src") : Action Fault (Option Path)) nested =
        (.ok (some (.ofString "/pkg/sub/node_modules/.bin/tsc")), nested) ∧
      let elsewhere := outcome (locate (.ofString "/other") : Action Fault (Option Path)) nested
      elsewhere.1 = .ok (some (.ofString "/opt/tsc")) ∧
        elsewhere.2.runs = [⟨none, .root, ["tsc"]⟩] := by
  have inside : (Path.ofString "/pkg/sub/src").isAbsolute = true := by decide
  have outside : (Path.ofString "/other").isAbsolute = true := by decide
  obtain ⟨-, -, nearest, -⟩ := locate_nearest (ε := Fault) inside nested
  refine ⟨nearest (.ofString "/pkg/sub") (by decide +kernel) (by decide +kernel)
    (by decide +kernel), ?_⟩
  obtain ⟨-, -, -, nowhere⟩ := locate_nearest (ε := Fault) outside nested
  have looksUp : LooksUp nested none ⟨[], Utf8.encode "\n /opt/tsc\n", [], .exit 0⟩ :=
    ⟨_, rfl, rfl⟩
  obtain ⟨found, located, runs, answer⟩ := (nowhere (by decide +kernel)).1 _ _ looksUp
  have answers : Answers (Utf8.encode "\n /opt/tsc\n") (.ofString "/opt/tsc") :=
    answeredPath?_eq_some_iff.mp (by decide +kernel)
  rw [(answer (.ofString "/opt/tsc")).mpr ⟨rfl, answers⟩] at located
  exact ⟨congrArg Prod.fst located, runs⟩

end Declarations.Compiler

end BundleFinish
