import BundleFinish.CommandLine.Arguments
import BundleFinish.Proofs.IdentifierClasses
import BundleFinish.Proofs.Preparation
import BundleFinish.Proofs.WrapperFrames

/-! # Accepted names and identifier names

A global name is accepted by letters and numbers, while identifiers are made of other classes of
characters. Most characters that are accepted continue identifiers. Those that do not are numbers
that are not digits, letters in circles and squares, and one more. Marks are letters, and they
continue identifiers, but start none. So an accepted name is an identifier name exactly if it has
none of the former and does not begin with one of the latter (`Umd.isName_iff_isProper`). -/

namespace BundleFinish

open CodeRanges Text

namespace Identifier

/-- Letters and numbers that no identifier has: numbers such as superscripts, fractions and those in
circles, letters in circles and squares, and the vertical tilde. -/
def strayRanges : CodeRanges := List.toArray
  [(0xb2, 0xb3), (0xb9, 0xb9), (0xbc, 0xbe), (0x9f4, 0x9f9), (0xb72, 0xb77), (0xbf0, 0xbf2),
   (0xc78, 0xc7e), (0xd58, 0xd5e), (0xd70, 0xd78), (0xf2a, 0xf33), (0x1372, 0x137c),
   (0x17f0, 0x17f9), (0x2070, 0x2070), (0x2074, 0x2079), (0x2080, 0x2089), (0x2150, 0x215f),
   (0x2189, 0x2189), (0x2460, 0x249b), (0x24b6, 0x24ff), (0x2776, 0x2793), (0x2cfd, 0x2cfd),
   (0x2e2f, 0x2e2f), (0x3192, 0x3195), (0x3220, 0x3229), (0x3248, 0x324f), (0x3251, 0x325f),
   (0x3280, 0x3289), (0x32b1, 0x32bf), (0xa830, 0xa835), (0x10107, 0x10133), (0x10175, 0x10178),
   (0x1018a, 0x1018b), (0x102e1, 0x102fb), (0x10320, 0x10323), (0x10858, 0x1085f),
   (0x10879, 0x1087f), (0x108a7, 0x108af), (0x108fb, 0x108ff), (0x10916, 0x1091b),
   (0x109bc, 0x109bd), (0x109c0, 0x109cf), (0x109d2, 0x109ff), (0x10a40, 0x10a48),
   (0x10a7d, 0x10a7e), (0x10a9d, 0x10a9f), (0x10aeb, 0x10aef), (0x10b58, 0x10b5f),
   (0x10b78, 0x10b7f), (0x10ba9, 0x10baf), (0x10cfa, 0x10cff), (0x10e60, 0x10e7e),
   (0x10f1d, 0x10f26), (0x10f51, 0x10f54), (0x10fc5, 0x10fcb), (0x11052, 0x11065),
   (0x111e1, 0x111f4), (0x1173a, 0x1173b), (0x118ea, 0x118f2), (0x11c5a, 0x11c6c),
   (0x11fc0, 0x11fd4), (0x16b5b, 0x16b61), (0x16e80, 0x16e96), (0x1d2c0, 0x1d2d3),
   (0x1d2e0, 0x1d2f3), (0x1d360, 0x1d378), (0x1e8c7, 0x1e8cf), (0x1ec71, 0x1ecab),
   (0x1ecad, 0x1ecaf), (0x1ecb1, 0x1ecb4), (0x1ed01, 0x1ed2d), (0x1ed2f, 0x1ed3d),
   (0x1f100, 0x1f10c), (0x1f130, 0x1f149), (0x1f150, 0x1f169), (0x1f170, 0x1f189)]

/-- A letter or number that no identifier has. -/
def isStray (c : Char) : Bool := strayRanges.holdsChar c

/-- A character that continues identifiers and starts none, other than the underscore. -/
def isExtender (c : Char) : Bool := extenderRanges.holdsChar c && c != '_'

/-! ## Letters and numbers among the characters of identifiers -/

/-- The characters of identifiers and the strays in one table. -/
def knownRanges : List (Nat × Nat) :=
  merge startRanges.toList (merge extenderRanges.toList strayRanges.toList)

/-- The tables ascend, and so do those of them that are merged. -/
theorem ascendFrom_tables :
    ascendFrom 0 startRanges.toList = true ∧ ascendFrom 0 extenderRanges.toList = true ∧
      ascendFrom 0 strayRanges.toList = true ∧
      ascendFrom 0 (merge extenderRanges.toList strayRanges.toList) = true ∧
      ascendFrom 0 knownRanges = true := by
  decide +kernel

/-- Every letter and every number is in the merged table. -/
theorem covers_knownRanges :
    covers knownRanges alphabeticRanges.toList = true ∧
      covers knownRanges numericRanges.toList = true := by
  decide +kernel

variable {c : Char}

/-- The ranges of `ID_Start` are found. -/
theorem hasIdStart_iff : hasIdStart c = true ↔ Within c.toNat startRanges.toList := by
  rw [hasIdStart, holdsChar, holds_iff ascendFrom_tables.1]

/-- The ranges of `ID_Continue` are found. -/
theorem hasIdContinue_iff :
    hasIdContinue c = true ↔
      Within c.toNat startRanges.toList ∨ Within c.toNat extenderRanges.toList := by
  rw [hasIdContinue, Bool.or_eq_true, holdsChar, holdsChar, holds_iff ascendFrom_tables.1,
    holds_iff ascendFrom_tables.2.1]

/-- The strays are found. -/
theorem isStray_iff : isStray c = true ↔ Within c.toNat strayRanges.toList := by
  rw [isStray, holdsChar, holds_iff ascendFrom_tables.2.2.1]

/-- The letters are those of the table, which has those of ASCII. -/
theorem isLetter_eq (c : Char) : isLetter c = alphabeticRanges.holdsChar c := by
  have ascii : ∀ code < 128, alphabeticRanges.holds code = (Char.ofNat code).isAlpha := by
    decide +kernel
  unfold isLetter
  split_ifs with small
  · rw [holdsChar, ascii _ small, Char.ofNat_toNat]
  · rfl

/-- The numbers are those of the table, which has the digits of ASCII. -/
theorem isNumber_eq (c : Char) : isNumber c = numericRanges.holdsChar c := by
  have ascii : ∀ code < 128, numericRanges.holds code = (Char.ofNat code).isDigit := by
    decide +kernel
  unfold isNumber
  split_ifs with small
  · rw [holdsChar, ascii _ small, Char.ofNat_toNat]
  · rfl

/-- Every letter and every number is known. -/
theorem within_knownRanges (word : isAlphanumeric c = true) : Within c.toNat knownRanges := by
  rw [isAlphanumeric, Bool.or_eq_true, isLetter_eq, isNumber_eq] at word
  rcases word with letter | number
  · exact within_of_covers covers_knownRanges.1 (within_of_search letter)
  · exact within_of_covers covers_knownRanges.2 (within_of_search number)

/-- A stray does not continue identifiers. -/
theorem not_isStray_of_hasIdContinue (continues : hasIdContinue c = true) : ¬isStray c = true := by
  obtain ⟨-, -, -, apartExtenders, apartStarts⟩ := ascendFrom_tables
  rw [isStray_iff]
  rcases hasIdContinue_iff.mp continues with starts | extends_
  · exact fun stray => not_within_of_merge apartStarts starts (within_merge.mpr (.inr stray))
  · exact not_within_of_merge apartExtenders extends_

/-- A letter or number continues identifiers unless it is stray. -/
theorem hasIdContinue_iff_not_isStray (word : isAlphanumeric c = true) :
    hasIdContinue c = true ↔ ¬isStray c = true := by
  refine ⟨not_isStray_of_hasIdContinue, fun regular => ?_⟩
  rw [hasIdContinue_iff]
  rcases within_merge.mp (within_knownRanges word) with starts | other
  · exact .inl starts
  · exact .inr ((within_merge.mp other).resolve_right (isStray_iff.not.mp regular))

/-- What starts identifiers does not only continue them. -/
theorem not_isExtender_of_hasIdStart (starts : hasIdStart c = true) : isExtender c = false := by
  obtain ⟨-, extenders, -, -, apart⟩ := ascendFrom_tables
  have alone : ¬extenderRanges.holdsChar c = true := by
    rw [holdsChar, holds_iff extenders]
    exact fun extends_ => not_within_of_merge apart (hasIdStart_iff.mp starts)
      (within_merge.mpr (.inl extends_))
  rw [isExtender, Bool.eq_false_iff.mpr alone, Bool.false_and]

/-- A character that is accepted behind the first one is that of an identifier unless it is
stray. -/
theorem part_iff (accepted : isIdentifierPart c = true) :
    (c = '$' ∨ c = '\u200c' ∨ c = '\u200d' ∨ hasIdContinue c = true) ↔ isStray c = false := by
  rw [← Bool.not_eq_true]
  constructor
  · rintro (rfl | rfl | rfl | continues)
    · decide +kernel
    · decide +kernel
    · decide +kernel
    · exact not_isStray_of_hasIdContinue continues
  · intro regular
    simp only [isIdentifierPart, Bool.or_eq_true, beq_iff_eq] at accepted
    rcases accepted with (word | rfl) | rfl
    · exact .inr (.inr (.inr ((hasIdContinue_iff_not_isStray word).mpr regular)))
    · exact .inr (.inr (.inr (by decide +kernel)))
    · exact .inl rfl

/-- A character that is accepted as the first one starts a name unless it is stray or only continues
identifiers. -/
theorem start_iff (accepted : isIdentifierStart c = true) :
    (c = '$' ∨ c = '_' ∨ hasIdStart c = true) ↔ isExtender c = false ∧ isStray c = false := by
  constructor
  · rintro (rfl | rfl | starts)
    · decide +kernel
    · decide +kernel
    · have continues : hasIdContinue c = true := by
        rw [hasIdContinue, Bool.or_eq_true]
        exact .inl starts
      exact ⟨not_isExtender_of_hasIdStart starts,
        Bool.eq_false_iff.mpr (not_isStray_of_hasIdContinue continues)⟩
  · rintro ⟨fit, regular⟩
    simp only [isIdentifierStart, Bool.or_eq_true, beq_iff_eq] at accepted
    rcases accepted with (letter | rfl) | rfl
    · have word : isAlphanumeric c = true := by rw [isAlphanumeric, letter, Bool.true_or]
      have continues := (hasIdContinue_iff_not_isStray word).mpr (by simpa using regular)
      rw [hasIdContinue, Bool.or_eq_true] at continues
      rcases continues with starts | extends_
      · exact .inr (.inr starts)
      · rw [isExtender, extends_, Bool.true_and, bne_eq_false_iff_eq] at fit
        exact .inr (.inl fit)
    · exact .inr (.inl rfl)
    · exact .inl rfl

end Identifier

namespace Umd

open Identifier

/-- A name has no stray, and begins with no character that only continues identifiers. -/
structure IsProper (name : String) : Prop where
  start : ∀ first ∈ name.toList.head?, isExtender first = false
  regular : ∀ c ∈ name.toList, isStray c = false

/-- What an accepted name is made of. -/
theorem exists_of_checkGlobalName {name : String} (accepted : checkGlobalName name = .ok ()) :
    ∃ first others, name.toList = first :: others ∧ isIdentifierStart first = true ∧
      ∀ c ∈ others, isIdentifierPart c = true := by
  unfold checkGlobalName at accepted
  split at accepted
  case h_1 => cases accepted
  case h_2 first others chars =>
    split_ifs at accepted with start parts
    exact ⟨first, others, chars, by simpa using start, List.all_eq_true.mp parts⟩

/-- An accepted name is an identifier name exactly if it is proper. -/
theorem isName_iff_of_checkGlobalName {name : String} (accepted : checkGlobalName name = .ok ()) :
    IsName name ↔ IsProper name := by
  obtain ⟨first, others, chars, start, parts⟩ := exists_of_checkGlobalName accepted
  constructor
  · rintro ⟨first', others', chars', starts, continues⟩
    obtain ⟨rfl, rfl⟩ := List.cons.inj (chars.symm.trans chars')
    obtain ⟨fit, regular⟩ := (start_iff start).mp starts
    refine ⟨fun c isFirst => ?_, fun c member => ?_⟩
    · rw [chars, List.head?_cons, Option.mem_some_iff] at isFirst
      exact isFirst ▸ fit
    · rw [chars, List.mem_cons] at member
      rcases member with rfl | behind
      · exact regular
      · exact (part_iff (parts c behind)).mp (continues c behind)
  · rintro ⟨fit, regular⟩
    rw [chars] at fit regular
    refine ⟨first, others, chars, ?_, fun c behind => ?_⟩
    · exact (start_iff start).mpr ⟨fit first rfl, regular first List.mem_cons_self⟩
    · exact (part_iff (parts c behind)).mpr (regular c (List.mem_cons_of_mem first behind))

/-- An accepted name of ASCII is proper. -/
theorem isProper_of_ascii {name : String} (accepted : checkGlobalName name = .ok ())
    (ascii : ∀ c ∈ name.toList, c.toNat < 128) : IsProper name := by
  have starts : ∀ code < 128, isIdentifierStart (Char.ofNat code) = true →
      isExtender (Char.ofNat code) = false := by decide +kernel
  have regular : ∀ code < 128, strayRanges.holds code = false := by decide +kernel
  obtain ⟨first, others, chars, start, -⟩ := exists_of_checkGlobalName accepted
  refine ⟨fun c isFirst => ?_, fun c member => regular c.toNat (ascii c member)⟩
  rw [chars, List.head?_cons, Option.mem_some_iff] at isFirst
  subst isFirst
  have small := ascii first (chars ▸ List.mem_cons_self)
  have fit := starts first.toNat small
  rw [Char.ofNat_toNat] at fit
  exact fit start

/-! ## The assignment in a wrapper -/

/-- The line of a wrapper that gives the module to a property of the global object. -/
def assignment (name : String) : List Char :=
  "    root.".toList ++ name.toList ++ " = factory();".toList

/-- A line gives the module to a property that has an identifier name. -/
def AssignsProperty (line : List Char) : Prop :=
  ∃ property, IsName property ∧ line = assignment property

/-- The assignment to a property is right exactly if the name of the property is. -/
theorem assignsProperty_assignment_iff {name : String} :
    AssignsProperty (assignment name) ↔ IsName name := by
  refine ⟨?_, fun isName => ⟨name, isName, rfl⟩⟩
  rintro ⟨property, isName, same⟩
  have names := List.append_cancel_left (List.append_cancel_right same)
  rwa [String.toList_inj.mp names]

/-- The assignment is a line of what stands before the body. -/
theorem exists_preamble_eq (name : String) : ∃ before behind,
    preamble name = before ++ '\n' :: (assignment name ++ '\n' :: behind) := by
  obtain ⟨before, starts⟩ : ∃ before,
      preambleStart.toList = before ++ '\n' :: "    root.".toList := by
    have line : "  \x7d else \x7b\n".toList = "  \x7d else \x7b".toList ++ ['\n'] := by decide
    unfold preambleStart
    rw [String.toList_append, String.toList_append, line, ← List.append_assoc,
      List.append_assoc _ ['\n']]
    exact ⟨_, rfl⟩
  obtain ⟨behind, ends⟩ : ∃ behind,
      preambleEnd.toList = " = factory();".toList ++ '\n' :: behind := by
    have line : " = factory();\n".toList = " = factory();".toList ++ ['\n'] := by decide
    unfold preambleEnd
    rw [String.toList_append, String.toList_append, line, List.append_assoc, List.append_assoc]
    exact ⟨_, rfl⟩
  refine ⟨before, behind, ?_⟩
  simp only [preamble, starts, ends, List.append_assoc, List.cons_append]
  unfold assignment
  simp only [List.append_assoc]

/-- The assignment is a line of every wrapped text. -/
theorem exists_assignment_of_wrap (text name : String) : ∃ before behind,
    (wrap text name).toList = before ++ '\n' :: (assignment name ++ '\n' :: behind) := by
  obtain ⟨shown, rest, split⟩ := exists_interpreterSplit text.toList
  obtain ⟨before, behind, shape⟩ := exists_preamble_eq name
  refine ⟨shown ++ before, behind ++ (endLine (returnExport rest) ++ postamble), ?_⟩
  simp only [toList_wrap split, Frame.chars, toList_opening, toList_closing, shape,
    List.append_assoc, List.cons_append]

/-! ## Accepted names -/

/-- A name is accepted for a global variable: by its check, with a configuration that is in order,
or as a value on a command line. -/
inductive IsAccepted (name : String) : Prop
  /-- The check of global names passes. -/
  | checked (passes : checkGlobalName name = .ok ())
  /-- A configuration that passes its checks has the name. -/
  | configured {configuration : Configuration} {umd : UmdConfiguration}
      (passes : configuration.check = .ok ()) (wraps : configuration.umd = some umd)
      (names : umd.globalName = name)
  /-- A command line has the name from the value of an option. -/
  | commanded {arguments given : CommandLine.Arguments} {value : Bytes}
      (reads : arguments.setValue .globalName value = .ok given)
      (names : given.globalName = some name)

/-- The check passes for every accepted name. -/
theorem IsAccepted.checkGlobalName_eq {name : String} (accepted : IsAccepted name) :
    checkGlobalName name = .ok () := by
  cases accepted with
  | checked passes => exact passes
  | configured passes wraps names =>
    obtain ⟨right, -⟩ := CommandLine.check_eq_ok_iff.mp passes
    exact names ▸ right _ wraps
  | @commanded arguments given value reads names =>
    rw [CommandLine.Arguments.setValue, if_pos rfl] at reads
    rcases decoded : Utf8.decode? value with _ | text
    · rw [decoded] at reads
      cases reads
    · rw [decoded] at reads
      dsimp only at reads
      rcases verdict : checkGlobalName text with cause | _
      · rw [verdict] at reads
        cases reads
      · rw [verdict] at reads
        cases reads
        obtain rfl : text = name := Option.some.inj names
        exact verdict

/-- **Accepted names.** Of the names that are accepted for a global variable, just the proper ones
are identifier names: those without a stray letter or number that do not begin with a character
that only continues identifiers. All accepted names of ASCII are. Every wrapped text has a line that
gives the module to the global variable, and just with the proper names it assigns to a property
that has an identifier name. -/
theorem isName_iff_isProper {name : String} (accepted : IsAccepted name) :
    (IsName name ↔ IsProper name) ∧
    ((∀ c ∈ name.toList, c.toNat < 128) → IsName name) ∧
    ∀ text, ∃ before behind,
      (wrap text name).toList = before ++ '\n' :: (assignment name ++ '\n' :: behind) ∧
      (AssignsProperty (assignment name) ↔ IsProper name) := by
  have passes := accepted.checkGlobalName_eq
  have proper := isName_iff_of_checkGlobalName passes
  refine ⟨proper, fun ascii => proper.mpr (isProper_of_ascii passes ascii), fun text => ?_⟩
  obtain ⟨before, behind, shape⟩ := exists_assignment_of_wrap text name
  exact ⟨before, behind, shape, assignsProperty_assignment_iff.trans proper⟩

/-- A name is seen to be proper from its characters. -/
theorem isProper_of_toList {name : String} {first : Char} {others : List Char}
    (spelled : name.toList = first :: others) (fit : isExtender first = false)
    (regular : (first :: others).all (!isStray ·) = true) : IsProper name := by
  refine ⟨fun c isFirst => ?_, fun c member => ?_⟩
  · rw [spelled, List.head?_cons, Option.mem_some_iff] at isFirst
    exact isFirst ▸ fit
  · simpa using List.all_eq_true.mp regular c (spelled ▸ member)

/-- A configuration whose global name is a Greek letter with a mark. -/
def markedConfiguration : Configuration :=
  { Configuration.default with
    entryPoints := [.ofString "a.ts"], umd := some { globalName := "\u03b1\u0345" } }

/-- Letters and digits of other scripts and marks behind the first character are in order. -/
theorem isName_iff_isProper_sample :
    checkGlobalName "\u00e9_\u0661" = .ok () ∧ IsName "\u00e9_\u0661" ∧
      AssignsProperty (assignment "\u00e9_\u0661") ∧
      markedConfiguration.check = .ok () ∧ IsName "\u03b1\u0345" ∧
      ∃ given, CommandLine.Arguments.empty.setValue .globalName (Utf8.encode "$lib_1") = .ok given ∧
        given.globalName = some "$lib_1" ∧ IsName "$lib_1" := by
  have passes : checkGlobalName "\u00e9_\u0661" = .ok () := by decide +kernel
  have foreign : "\u00e9_\u0661".toList = ['\u00e9', '_', '\u0661'] := by decide
  have proper := isProper_of_toList foreign (by decide +kernel) (by decide +kernel)
  have marks : markedConfiguration.check = .ok () := by decide +kernel
  have greek : "\u03b1\u0345".toList = ['\u03b1', '\u0345'] := by decide
  have marked := isProper_of_toList greek (by decide +kernel) (by decide +kernel)
  have reads : CommandLine.Arguments.empty.setValue .globalName (Utf8.encode "$lib_1") =
      .ok { CommandLine.Arguments.empty with globalName := some "$lib_1" } := by decide +kernel
  have small : ∀ c ∈ "$lib_1".toList, c.toNat < 128 := by
    have plain : "$lib_1".toList = ['$', 'l', 'i', 'b', '_', '1'] := by decide
    rw [plain]
    simp
  obtain ⟨names, -, assignments⟩ := isName_iff_isProper (.checked passes)
  obtain ⟨_, _, -, assigns⟩ := assignments ""
  obtain ⟨configured, -⟩ := isName_iff_isProper (.configured marks rfl rfl)
  obtain ⟨-, ascii, -⟩ := isName_iff_isProper (.commanded reads rfl)
  exact ⟨passes, names.mpr proper, assigns.mpr proper, marks, configured.mpr marked, _, reads, rfl,
    ascii small⟩

/-- Not every accepted name is an identifier name: a number such as the superscript two is accepted,
and even where all characters continue identifiers, a mark is accepted as the first one. -/
theorem not_forall_isName :
    (¬∀ name, checkGlobalName name = .ok () → IsName name) ∧
    ¬∀ name, checkGlobalName name = .ok () →
      (∀ c ∈ name.toList, hasIdContinue c = true) → IsName name := by
  refine ⟨fun right => ?_, fun right => ?_⟩
  · have accepted : checkGlobalName "x\u00b2" = .ok () := by decide +kernel
    have proper := (isName_iff_of_checkGlobalName accepted).mp (right _ accepted)
    exact absurd (proper.regular '\u00b2' (by decide)) (by decide +kernel)
  · have accepted : checkGlobalName "\u0345" = .ok () := by decide +kernel
    have chars : "\u0345".toList = ['\u0345'] := by decide
    have continues : ∀ c ∈ "\u0345".toList, hasIdContinue c = true := by
      intro c member
      rw [chars, List.mem_singleton] at member
      rw [member]
      decide +kernel
    have proper := (isName_iff_of_checkGlobalName accepted).mp (right _ accepted continues)
    exact absurd (proper.start '\u0345' (by rw [chars]; rfl)) (by decide +kernel)

end Umd

end BundleFinish
