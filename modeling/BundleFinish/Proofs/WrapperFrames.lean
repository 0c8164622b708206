import BundleFinish.Proofs.InterpreterLines
import BundleFinish.Proofs.TrailingExports
import BundleFinish.Umd.GlobalName
import BundleFinish.Umd.Wrapper
import Mathlib.Data.List.Infix

/-! # Frames of wrapped texts

A wrapped text is the interpreter line of a module, the lines up to the factory's body with the name
of the global variable, that body, and the lines behind it. For names that are plain identifiers
these parts are determined by the wrapped text (`wrap_frame`). A directive that was put into the
module before it was wrapped is the first line of the body and changes nothing about the trailing
export behind it (`wrap_injectReference`). -/

namespace BundleFinish.Umd

open Text Declarations

/-! ## Lines without the target -/

section

variable {target text rest : List Char} {c : Char}

/-- A prefix without a character ends in front of it. -/
theorem prefix_of_prefix_append_cons (other : c ∉ target) (starts : target <+: text ++ c :: rest) :
    target <+: text := by
  obtain ⟨behind, split⟩ := starts
  rcases List.append_eq_append_iff.mp split with ⟨inner, rfl, -⟩ | ⟨inner, rfl, same⟩
  · exact List.prefix_append target inner
  · rcases inner with _ | ⟨d, inner⟩
    · rw [List.append_nil]
    · obtain ⟨rfl, -⟩ := List.cons.inj same
      exact absurd (List.mem_append_right text List.mem_cons_self) other

/-- Two texts without a character are the same where it first stands behind them. -/
theorem eq_of_append_cons_eq {other behind : List Char} (free : c ∉ text) (free' : c ∉ other)
    (same : text ++ c :: rest = other ++ c :: behind) : text = other ∧ rest = behind := by
  have before : text <+: other := prefix_of_prefix_append_cons free ⟨c :: rest, same⟩
  have behind : other <+: text := prefix_of_prefix_append_cons free' ⟨_, same.symm⟩
  obtain rfl := before.eq_of_length_le behind.length_le
  exact ⟨rfl, (List.cons.inj (List.append_cancel_left same)).2⟩

/-- What has no such character stands on one side of it. -/
theorem infix_of_infix_append_cons (other : c ∉ target) (found : target <:+: text ++ c :: rest) :
    target <:+: text ∨ target <:+: rest := by
  induction text with
  | nil =>
    refine (List.infix_cons_iff.mp found).imp_left fun starts => ?_
    exact (prefix_of_prefix_append_cons other starts).isInfix
  | cons d text ih =>
    rcases List.infix_cons_iff.mp found with starts | further
    · exact .inl (prefix_of_prefix_append_cons other starts).isInfix
    · exact (ih further).imp_left fun inner => List.infix_cons_iff.mpr (.inr inner)

end

/-- A directive names the target of an export only if its declaration does. -/
theorem not_infix_referenceDirective {declaration : String}
    (free : ¬exportTarget <:+: declaration.toList) :
    ¬exportTarget <:+: (referenceDirective declaration).toList := by
  have shape : (referenceDirective declaration).toList =
      "/// <reference types=\".".toList ++ '/' :: (declaration.toList ++ '"' :: " />".toList) := by
    have parts : referenceDirective declaration =
        "/// <reference types=\"./" ++ declaration ++ "\" />" := rfl
    simp [parts]
  rw [shape]
  intro found
  rcases infix_of_infix_append_cons (by decide) found with opening | further
  · exact absurd opening (by decide)
  · rcases infix_of_infix_append_cons (by decide) further with inside | closing
    · exact free inside
    · exact absurd closing (by decide)

/-! ## The trailing export behind a line -/

variable {line : List Char}

/-- No export starts in front of the end of a line that does not hold the target. -/
theorem exportHere?_line (free : ¬exportTarget <:+: line) (rest : List Char) :
    exportHere? (line ++ '\n' :: rest) = none := by
  rw [exportHere?, if_neg]
  intro target
  have starts := prefix_of_prefix_append_cons (by decide) (List.isPrefixOf_iff_prefix.mp target)
  exact free starts.isInfix

/-- The scan passes over such a line. -/
theorem trailingExportFrom?_line (free : ¬exportTarget <:+: line) (before rest : List Char) :
    trailingExportFrom? before (line ++ '\n' :: rest) =
      trailingExportFrom? ('\n' :: (line.reverse ++ before)) rest := by
  induction line generalizing before with
  | nil => exact trailingExportFrom?_cons_of_none fun _ => exportHere?_line free rest
  | cons c line ih =>
    have free' : ¬exportTarget <:+: line := fun found => free (List.infix_cons_iff.mpr (.inr found))
    have here := exportHere?_line free rest
    rw [List.cons_append] at here
    rw [List.cons_append, trailingExportFrom?_cons_of_none fun _ => here, ih free',
      List.reverse_cons, List.append_assoc, List.singleton_append]

/-- A statement may start behind a newline where it may at the start of a text. -/
theorem startsStatement_append_newline (before line : List Char) :
    startsStatement (before ++ '\n' :: line) = startsStatement before := by
  induction before with
  | nil => rfl
  | cons c before ih => rw [List.cons_append, startsStatement, startsStatement, ih]

/-- Below another line, the scan finds what it finds in the text alone. -/
theorem trailingExportFrom?_append_newline (before line rest : List Char) :
    trailingExportFrom? (before ++ '\n' :: line) rest =
      (trailingExportFrom? before rest).map fun (lead, expression) =>
        (line.reverse ++ '\n' :: lead, expression) := by
  induction rest generalizing before with
  | nil => rfl
  | cons c rest ih =>
    rw [trailingExportFrom?, trailingExportFrom?, startsStatement_append_newline]
    rcases (if startsStatement before then exportHere? (c :: rest) else none) with _ | expression
    · exact ih (c :: before)
    · simp

/-- The trailing export of a text stays where it is when a line without the target is put in front:
at the start of the text that line's newline lets a statement start. -/
theorem trailingExport?_line (free : ¬exportTarget <:+: line) (rest : List Char) :
    trailingExport? (line ++ '\n' :: rest) =
      (trailingExport? rest).map fun (lead, expression) => (line ++ '\n' :: lead, expression) := by
  have below := trailingExportFrom?_append_newline [] line.reverse rest
  rw [List.reverse_reverse] at below
  rw [trailingExport?, trailingExportFrom?_line free, List.append_nil]
  exact below

/-- Returning the trailing export keeps such a line. -/
theorem returnExport_line (free : ¬exportTarget <:+: line) (rest : List Char) :
    returnExport (line ++ '\n' :: rest) = line ++ '\n' :: returnExport rest := by
  rw [returnExport, returnExport, trailingExport?_line free]
  rcases trailingExport? rest with _ | ⟨lead, expression⟩
  · rfl
  · simp

/-! ## Parts of a wrapped text -/

/-- The parts that differ from one wrapped text to another. -/
structure Frame where
  /-- The interpreter line with its newline; nothing where there is none. -/
  shown : List Char
  globalName : String
  /-- The body of the factory. -/
  body : List Char
  deriving DecidableEq, Repr

/-- The lines in front of the body, with the name of the global variable. -/
def opening (globalName : String) : String :=
  "(function (root, factory) \x7b\n" ++
  "  if (typeof define === 'function' && define.amd) \x7b\n" ++
  "    define([], factory);\n" ++
  "  \x7d else if (typeof module === 'object' && module.exports) \x7b\n" ++
  "    module.exports = factory();\n" ++
  "  \x7d else \x7b\n" ++
  "    root." ++ globalName ++ (" = factory();\n" ++
  "  \x7d\n" ++
  "\x7d(typeof self !== 'undefined' ? self : this, function () \x7b\n")

/-- The text that the parts make up, with the lines around the body. -/
def Frame.chars (frame : Frame) : List Char :=
  frame.shown ++ ((opening frame.globalName).toList ++ (frame.body ++ "\x7d));\n".toList))

/-- The lines in front of the body are those that are written. -/
theorem toList_opening (globalName : String) :
    (opening globalName).toList = preamble globalName := by
  unfold opening preamble preambleStart preambleEnd
  rw [String.toList_append, String.toList_append]

/-- So is the line behind the body. -/
theorem toList_closing : "\x7d));\n".toList = postamble := by rw [postamble]

/-- The parts of a text that is wrapped under a name: its interpreter line, and as the body the rest
of it with its trailing export returned and its last line ended. -/
structure IsFrameOf (text globalName : String) (frame : Frame) (rest : List Char) : Prop where
  split : InterpreterSplit text.toList frame.shown rest
  named : frame.globalName = globalName
  body : frame.body =
    if (returnExport rest).getLast? = some '\n' then returnExport rest
    else returnExport rest ++ ['\n']

variable {text shown rest : List Char}

/-- More behind a text leaves its first character. -/
theorem head?_toList_append {text : String} {c : Char} (first : text.toList.head? = some c)
    (behind : String) : (text ++ behind).toList.head? = some c := by
  rw [String.toList_append, List.head?_append, first, Option.some_or]

/-- The wrapper starts with a parenthesis. -/
theorem head?_preambleStart : preambleStart.toList.head? = some '(' := by
  unfold preambleStart
  iterate 6 refine head?_toList_append ?_ _
  decide

/-- A blank stands behind the name of the global variable. -/
theorem head?_preambleEnd : preambleEnd.toList.head? = some ' ' := by
  unfold preambleEnd
  iterate 2 refine head?_toList_append ?_ _
  decide

/-- The wrapper is no interpreter line. -/
theorem not_prefix_preamble (globalName : String) (behind : List Char) :
    ¬"#!".toList <+: preamble globalName ++ behind := by
  obtain ⟨rest, shape⟩ := List.head?_eq_some_iff.mp head?_preambleStart
  rw [preamble, shape]
  simp

/-- A text is wrapped below its interpreter line. -/
theorem toList_wrap {text : String} (split : InterpreterSplit text.toList shown rest)
    (globalName : String) :
    (wrap text globalName).toList =
      Frame.chars ⟨shown, globalName, endLine (returnExport rest)⟩ := by
  obtain ⟨rfl, rfl⟩ := split.eq_splitShebang
  simp only [wrap, String.toList_ofList, wrapChars, factoryBody, Frame.chars, toList_opening,
    toList_closing, List.append_assoc]

/-- The parts of a text make up the wrapped text. -/
theorem IsFrameOf.toList_wrap {text globalName : String} {frame : Frame}
    (isFrame : IsFrameOf text globalName frame rest) :
    (wrap text globalName).toList = frame.chars := by
  obtain ⟨shown, _, _⟩ := frame
  obtain ⟨split, rfl, rfl⟩ := isFrame
  exact Umd.toList_wrap split _

/-- The interpreter line of a wrapped text is that of the module. -/
theorem Frame.interpreterSplit_chars {frame : Frame}
    (split : InterpreterSplit text frame.shown rest) :
    InterpreterSplit frame.chars frame.shown
      (preamble frame.globalName ++ (frame.body ++ postamble)) := by
  rw [Frame.chars, toList_opening, toList_closing]
  exact split.below (not_prefix_preamble frame.globalName _)

/-- A wrapped text determines its parts, when no blank stands in the names: the interpreter line
ends at the first newline, and the name at the first blank behind `root.`. -/
theorem Frame.eq_of_chars_eq {frame other : Frame} {text' rest' : List Char}
    (split : InterpreterSplit text frame.shown rest)
    (split' : InterpreterSplit text' other.shown rest')
    (plain : ' ' ∉ frame.globalName.toList) (plain' : ' ' ∉ other.globalName.toList)
    (same : frame.chars = other.chars) : frame = other := by
  have below := Frame.interpreterSplit_chars split
  rw [same] at below
  obtain ⟨lines, behind⟩ := below.unique (Frame.interpreterSplit_chars split')
  obtain ⟨ends, shape⟩ := List.head?_eq_some_iff.mp head?_preambleEnd
  simp only [preamble, shape, List.append_assoc, List.append_cancel_left_eq,
    List.cons_append] at behind
  obtain ⟨names, bodies⟩ := eq_of_append_cons_eq plain plain' behind
  have body := List.append_cancel_right (List.append_cancel_left bodies)
  obtain ⟨_, globalName, _⟩ := frame
  obtain ⟨_, _, _⟩ := other
  obtain rfl : globalName = _ := String.toList_inj.mp names
  cases lines
  cases body
  rfl

/-- No blank stands in a name that is accepted. -/
theorem blank_not_mem_of_checkGlobalName {name : String}
    (accepted : checkGlobalName name = .ok ()) : ' ' ∉ name.toList := by
  unfold checkGlobalName at accepted
  split at accepted
  case h_1 => cases accepted
  case h_2 first others chars =>
    split_ifs at accepted with start parts
    rw [chars, List.mem_cons, not_or]
    constructor
    · rintro rfl
      exact start (by decide)
    · intro member
      exact absurd (List.all_eq_true.mp parts ' ' member) (by decide)

/-- The last line behind another one is ended only where there is one. -/
theorem endLine_append_newline (line rest : List Char) :
    endLine (line ++ '\n' :: rest) =
      line ++ '\n' :: (if rest = [] ∨ rest.getLast? = some '\n' then rest else rest ++ ['\n']) := by
  rcases List.eq_nil_or_concat' rest with rfl | ⟨front, last, rfl⟩
  · simp [endLine]
  · have lasts : (line ++ '\n' :: (front ++ [last])).getLast? = some last := by
      rw [← List.cons_append, ← List.append_assoc, List.getLast?_concat]
    rw [endLine, lasts, List.getLast?_concat]
    by_cases ends : last = '\n' <;> simp [ends]

/-- **Linking and wrapping.** A text that gets a directive and is wrapped then has the directive as
the first line of its body, in front of the rest of the text with its trailing export returned and
its last line ended. Both steps find the same interpreter line, which stays the first line, and the
export that is returned is that of the rest of the text. -/
theorem wrap_injectReference (text declaration globalName : String)
    (free : ¬"module.exports".toList <:+: declaration.toList) :
    ∃ shown rest, InterpreterSplit text.toList shown rest ∧
      (wrap (injectReference text declaration) globalName).toList =
        shown ++ ((opening globalName).toList ++
          ((referenceDirective declaration).toList ++ '\n' ::
            (if returnExport rest = [] ∨ (returnExport rest).getLast? = some '\n' then
              returnExport rest
            else returnExport rest ++ ['\n']) ++ "\x7d));\n".toList)) ∧
      InterpreterSplit (injectReference text declaration).toList shown
        ((referenceDirective declaration).toList ++ '\n' :: rest) ∧
      (∃ behind,
        InterpreterSplit (wrap (injectReference text declaration) globalName).toList shown behind) ∧
      trailingExport? ((referenceDirective declaration).toList ++ '\n' :: rest) =
        (trailingExport? rest).map fun (lead, expression) =>
          ((referenceDirective declaration).toList ++ '\n' :: lead, expression) := by
  obtain ⟨shown, rest, split⟩ := exists_interpreterSplit text.toList
  have below := interpreterSplit_injectReference split declaration
  have absent := not_infix_referenceDirective free
  have whole := toList_wrap below globalName
  refine ⟨shown, rest, split, ?_, below, ?_, trailingExport?_line absent rest⟩
  · rw [whole, returnExport_line absent, endLine_append_newline, Frame.chars]
  · rw [whole]
    exact ⟨_, Frame.interpreterSplit_chars split⟩

/-- A module with an interpreter line and an export at its very start. -/
theorem wrap_injectReference_sample :
    wrap (injectReference "#!/usr/bin/env node\nmodule.exports = f" "f.d.ts") "f" =
      "#!/usr/bin/env node\n" ++ opening "f" ++
        "/// <reference types=\"./f.d.ts\" />\nreturn f;\n\x7d));\n" := by
  obtain ⟨shown, rest, split, whole, -⟩ :=
    wrap_injectReference "#!/usr/bin/env node\nmodule.exports = f" "f.d.ts" "f" (by decide)
  have starts : "#!".toList <+: "#!/usr/bin/env node".toList := by decide
  have known : InterpreterSplit "#!/usr/bin/env node\nmodule.exports = f".toList
      "#!/usr/bin/env node\n".toList "module.exports = f".toList := .ended starts (by decide)
  obtain ⟨rfl, rfl⟩ := split.unique known
  have returned : returnExport "module.exports = f".toList = "return f;".toList := by decide
  have behind : (referenceDirective "f.d.ts").toList ++ '\n' :: ("return f;".toList ++ ['\n']) ++
      "\x7d));\n".toList =
        "/// <reference types=\"./f.d.ts\" />\nreturn f;\n\x7d));\n".toList := by decide +kernel
  rw [← String.toList_inj, whole, returned, if_neg (by decide), behind, String.toList_append,
    String.toList_append, List.append_assoc]

/-- **Frames of wrapped texts.** A wrapped text is the interpreter line of the module, with a
newline and only where the module has one, the lines up to the body with the name of the global
variable, the body and the lines behind it. The body is the rest of the module with its trailing
export returned, and its last line is always ended; without an export it begins with the rest as it
stands. Under names that are plain identifiers, texts that are wrapped into the same text have the
same name, the same interpreter line and the same body. -/
theorem wrap_frame (text globalName : String) :
    ∃ frame rest, IsFrameOf text globalName frame rest ∧
      (wrap text globalName).toList = frame.chars ∧
      (frame.shown = [] ↔ ¬"#!".toList <+: text.toList) ∧
      frame.body.getLast? = some '\n' ∧
      (trailingExport? rest = none → rest <+: frame.body) ∧
      (checkGlobalName globalName = .ok () →
        ∀ other otherName otherFrame otherRest, IsFrameOf other otherName otherFrame otherRest →
          checkGlobalName otherName = .ok () → wrap text globalName = wrap other otherName →
          frame = otherFrame) := by
  obtain ⟨shown, rest, split⟩ := exists_interpreterSplit text.toList
  let frame : Frame := ⟨shown, globalName, endLine (returnExport rest)⟩
  have isFrame : IsFrameOf text globalName frame rest := ⟨split, rfl, rfl⟩
  refine ⟨frame, rest, isFrame, isFrame.toList_wrap, split.eq_nil_iff, ?_, fun none => ?_, ?_⟩
  · change (endLine (returnExport rest)).getLast? = some '\n'
    unfold endLine
    split_ifs with ends
    · exact ends
    · exact List.getLast?_concat ..
  · have unchanged : returnExport rest = rest := by rw [returnExport, none]
    change rest <+: endLine (returnExport rest)
    rw [unchanged, endLine]
    split_ifs
    · exact List.prefix_rfl
    · exact List.prefix_append rest _
  · intro accepted other otherName otherFrame otherRest isOther accepted' same
    refine Frame.eq_of_chars_eq split isOther.split
      (blank_not_mem_of_checkGlobalName accepted) ?_ ?_
    · rw [isOther.named]
      exact blank_not_mem_of_checkGlobalName accepted'
    · rw [← isFrame.toList_wrap, ← isOther.toList_wrap, same]

/-- Two modules that are wrapped into the same text: what the first one exports, the second one
returns. -/
theorem wrap_frame_sample :
    checkGlobalName "lib$1" = .ok () ∧
      wrap "#!/usr/bin/env node\nmodule.exports = f" "lib$1" =
        wrap "#!/usr/bin/env node\nreturn f;\n" "lib$1" ∧
      wrap "#!/usr/bin/env node\nmodule.exports = f" "lib$1" =
        "#!/usr/bin/env node\n" ++ opening "lib$1" ++ "return f;\n\x7d));\n" ∧
      ∃ frame rest otherRest,
        IsFrameOf "#!/usr/bin/env node\nmodule.exports = f" "lib$1" frame rest ∧
        IsFrameOf "#!/usr/bin/env node\nreturn f;\n" "lib$1" frame otherRest := by
  have accepted : checkGlobalName "lib$1" = .ok () := by decide
  have line : "#!".toList <+: "#!/usr/bin/env node".toList ∧ '\n' ∉ "#!/usr/bin/env node".toList :=
    ⟨by decide, by decide⟩
  have split : InterpreterSplit "#!/usr/bin/env node\nmodule.exports = f".toList
      "#!/usr/bin/env node\n".toList "module.exports = f".toList := .ended line.1 line.2
  have split' : InterpreterSplit "#!/usr/bin/env node\nreturn f;\n".toList
      "#!/usr/bin/env node\n".toList "return f;\n".toList := .ended line.1 line.2
  have bodies : endLine (returnExport "module.exports = f".toList) =
      endLine (returnExport "return f;\n".toList) := by decide
  have same : wrap "#!/usr/bin/env node\nmodule.exports = f" "lib$1" =
      wrap "#!/usr/bin/env node\nreturn f;\n" "lib$1" := by
    rw [← String.toList_inj, toList_wrap split, toList_wrap split', bodies]
  obtain ⟨frame, rest, isFrame, whole, -, -, -, alike⟩ :=
    wrap_frame "#!/usr/bin/env node\nmodule.exports = f" "lib$1"
  obtain ⟨other, otherRest, isOther, -⟩ := wrap_frame "#!/usr/bin/env node\nreturn f;\n" "lib$1"
  obtain rfl := alike accepted _ _ _ _ isOther accepted same
  refine ⟨accepted, same, ?_, frame, rest, otherRest, isFrame, isOther⟩
  obtain ⟨shown, name, body⟩ := frame
  obtain ⟨parts, rfl, rfl⟩ := isFrame
  obtain ⟨rfl, rfl⟩ := parts.unique split
  have returned : returnExport "module.exports = f".toList = "return f;".toList := by decide
  have behind : "return f;".toList ++ ['\n'] ++ "\x7d));\n".toList =
      "return f;\n\x7d));\n".toList := by decide +kernel
  rw [← String.toList_inj, whole, Frame.chars, returned, if_neg (by decide), behind,
    String.toList_append, String.toList_append, List.append_assoc]

end BundleFinish.Umd
