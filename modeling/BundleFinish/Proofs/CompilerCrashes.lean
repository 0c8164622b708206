import BundleFinish.Proofs.DiagnosticBlocks
import BundleFinish.Proofs.EmissionOutcomes

/-! # Crashes of the compiler

A compiler that crashes prints no first line of a diagnostic. What it prints is read all the same:
the first line that is not blank becomes an error by itself, and the others its message
(`Diagnostic.exists_parse_of_headless`). So a crash is a failure of the type-checker exactly if
nothing but white space was printed; otherwise the plan is linked, also to declarations that an
earlier build left (`Declarations.Compiler.emit_of_crash_iff`). -/

namespace BundleFinish

open Build (Context Progress)
open Text

/-! ## Reading what a crash prints -/

namespace Diagnostic

/-- No line of a text is a first line of a diagnostic. -/
def Headless (text : String) : Prop :=
  ∀ line ∈ lines text.toList, ¬IsLocated line ∧ ¬IsGlobal line

instance (text : String) : Decidable (Headless text) :=
  inferInstanceAs (Decidable (∀ line ∈ lines text.toList, ¬IsLocated line ∧ ¬IsGlobal line))

/-- What is read from lines that start no diagnostic: the first is an error, and the others go on
with its message. -/
def bareError (first : List Char) (others : List (List Char)) : Diagnostic :=
  error (String.ofList (trimChars first ++ others.flatMap ('\n' :: ·)))

/-- A text in which no line starts a diagnostic, and that is not blank, is read as one error. -/
theorem exists_parse_of_headless {text : String} (headless : Headless text)
    (some : isBlankText text.toList = false) :
    ∃ first others, saidLines text = first :: others ∧ parse text = [bareError first others] := by
  have bare : ∀ line ∈ saidLines text, ¬IsHeading line := by
    intro line member
    rw [isHeading_iff_isLocated_or_isGlobal (isSaid_of_mem_saidLines member).single, not_or]
    exact headless line (List.mem_filter.mp member).1
  rcases said : saidLines text with _ | ⟨first, others⟩
  · have read : parse text = [] := by
      rw [parse_eq_foldl_saidLines, said]
      rfl
    rw [parse_eq_nil_iff, some] at read
    cases read
  · rw [said] at bare
    obtain ⟨isBare, goesOn⟩ := List.forall_mem_cons.mp bare
    have asBlock : (error (String.ofList (trimChars first))).goOn others =
        bareError first others := by
      simp [goOn, withMessage, bareError, error]
    -- No heading cuts the lines, so all of them are one block.
    have isBlock : IsBlock (first :: others) (bareError first others) :=
      asBlock ▸ IsBlock.stray isBare goesOn
    have accounts : Accounts [first :: others] (saidLines text) [bareError first others] :=
      ⟨by simp [said], .cons isBlock .nil, by simp⟩
    exact ⟨first, others, rfl, accounts.parse_eq⟩

end Diagnostic

/-! ## What becomes of a crash -/

namespace Declarations

open Diagnostic (Headless saidLines bareError)

/-- A run that crashed: it ended without success, and its output is a text in which no line starts a
diagnostic. -/
structure Crashed (execution : Execution) (text : String) : Prop where
  failing : execution.ending.isSuccess = false
  decoded : Utf8.decode execution.stdout = .ok text
  headless : Headless text

/-- How a crash is told: by the exit code, with -1 for a signal, and by the output and the errors that
were printed, in one text and without the white space around it. -/
def crashFault (execution : Execution) (text : String) : CheckerError :=
  .silentExit
    (match execution.ending with
      | .exit code => code
      | .signal _ => -1)
    (trim (text ++ Utf8.decodeLossy execution.stderr))

/-- A crash is told as one where nothing but white space was printed as output; otherwise what was
printed is taken for one error. -/
theorem diagnosticsOf_of_crashed {execution : Execution} {text : String}
    (crashed : Crashed execution text) :
    (isBlankText text.toList = true ∧
      Compiler.diagnosticsOf execution = .error (crashFault execution text)) ∨
    (isBlankText text.toList = false ∧ ∃ first others, saidLines text = first :: others ∧
      Compiler.diagnosticsOf execution = .ok [bareError first others]) := by
  obtain ⟨failing, decoded, headless⟩ := crashed
  unfold Compiler.diagnosticsOf
  rw [decoded]
  rcases blank : isBlankText text.toList with _ | _
  · obtain ⟨first, others, said, read⟩ := Diagnostic.exists_parse_of_headless headless blank
    refine .inr ⟨rfl, first, others, said, ?_⟩
    simp [Except.mapError, bind, Except.bind, pure, Except.pure, read]
  · refine .inl ⟨rfl, ?_⟩
    have silent : (!execution.ending.isSuccess) = true ∧ Diagnostic.parse text = [] :=
      ⟨by rw [failing]; rfl, Diagnostic.parse_eq_nil_iff.mpr blank⟩
    have fault : crashFault execution text = .silentExit execution.ending.reportedCode
        (Compiler.printed text execution.stderr) := by
      unfold crashFault
      cases execution.ending <;> rfl
    rw [fault]
    exact if_pos silent

/-- How a compiler answers behind a crash. -/
theorem Compiler.reply_of_crashed (compiler : Compiler) (files : List Path) (options : Options)
    (after : Workspace) {execution : Execution} {text : String} (crashed : Crashed execution text) :
    (isBlankText text.toList = true ∧
      compiler.reply files options after (some execution) = .error (crashFault execution text)) ∨
    (isBlankText text.toList = false ∧ ∃ first others, saidLines text = first :: others ∧
      compiler.reply files options after (some execution) =
        .ok ⟨[bareError first others], files.map options.declarationPath⟩) := by
  rcases diagnosticsOf_of_crashed crashed with ⟨blank, told⟩ | ⟨loud, first, others, said, taken⟩
  · exact .inl ⟨blank, by rw [reply, told]; rfl⟩
  · exact .inr ⟨loud, first, others, said, by rw [reply, taken]; rfl⟩

namespace Emitter

variable {emitter : Emitter} {context : Context} {start : Progress}

/-- The stage reports a crash as one error. The files are those that the compiler left. -/
def TellsCrash (emitter : Emitter) (context : Context) (start : Progress) (fault : CheckerError) :
    Prop :=
  ∃ (call : Call emitter context start.workspace) (after : Workspace),
    after.files = call.after.files ∧
      outcome (emitter.run context) start =
        (.ok (), ⟨after, start.result.pushError (faultMessage fault)⟩)

/-- The stage takes what a crash printed for an error in the sources: it reports that, and links the
plan in what the compiler left. -/
def MistakesCrash (emitter : Emitter) (context : Context) (start : Progress) (text : String) :
    Prop :=
  ∃ (call : Call emitter context start.workspace) (emitted : Emitted),
    (∃ first others, saidLines text = first :: others ∧
      emitted.diagnostics = [bareError first others]) ∧
    Completion call emitted

/-- What becomes of a crash in the stage: it is reported, and no script is touched; or one error is
reported, and the plan is linked. -/
theorem run_of_crashed {execution : Execution} {text : String}
    (clean : start.result.hasErrors = false)
    (starts : emitter.Starts context start.workspace (some execution))
    (crashed : Crashed execution text) :
    (isBlankText text.toList = true ∧
      TellsCrash emitter context start (crashFault execution text)) ∨
    (isBlankText text.toList = false ∧ MistakesCrash emitter context start text) := by
  obtain ⟨call, compiler, after, replied⟩ := starts.exists_call
  rcases compiler.reply_of_crashed call.emission.files call.emission.options after crashed with
    ⟨blank, told⟩ | ⟨loud, first, others, said, taken⟩
  · have ran := outcome_run_of_calls clean call.calls
    rw [replied, told] at ran
    exact .inl ⟨blank, call, call.after.logged .warn logTarget
      s!"[fob-dts] type-checker failed: {(crashFault execution text).message}", rfl, ran⟩
  · exact .inr ⟨loud, call, _, ⟨first, others, said, rfl⟩,
      completion_of_reply clean call (replied.trans taken)⟩

end Emitter

/-- **A crash of the compiler.** Let a run of the compiler end without success, and let its output be
a text in which no line starts a diagnostic. It is answered by a failure, with the exit code and all
that was printed, exactly if the output is blank. Otherwise the lines that are not blank are taken
for one error without a place. So in a build without errors, a stage that starts the compiler
reports the crash and touches no script where the output is blank; and otherwise it reports that
error and links the plan in what the compiler left. -/
theorem Compiler.emit_of_crash_iff {compiler : Compiler} {files : List Path} {options : Options}
    {workspace ran : Workspace} {execution : Execution} {text : String}
    (started : outcome (compiler.start files options) workspace = (.ok (some execution), ran))
    (crashed : Crashed execution text) :
    ((outcome (compiler.emit files options) workspace).1 = .error (crashFault execution text) ↔
      isBlankText text.toList = true) ∧
    (isBlankText text.toList = false → ∃ first others, saidLines text = first :: others ∧
      (outcome (compiler.emit files options) workspace).1 =
        .ok ⟨[bareError first others], files.map options.declarationPath⟩) ∧
    ∀ (emitter : Emitter) (context : Context) (start : Progress),
      start.result.hasErrors = false → emitter.Starts context start.workspace (some execution) →
      (isBlankText text.toList = true ∧
        emitter.TellsCrash context start (crashFault execution text)) ∨
      (isBlankText text.toList = false ∧ emitter.MistakesCrash context start text) := by
  obtain ⟨after, emitted⟩ := exists_outcome_emit started workspace.emissions workspace.log
  have answered : (outcome (compiler.emit files options) workspace).1 =
      compiler.reply files options after (some execution) := congrArg Prod.fst emitted
  refine ⟨?_, ?_, fun emitter context start clean starts =>
    Emitter.run_of_crashed clean starts crashed⟩
  · rw [answered]
    rcases compiler.reply_of_crashed files options after crashed with
      ⟨blank, told⟩ | ⟨loud, first, others, -, taken⟩
    · exact iff_of_true told blank
    · refine iff_of_false ?_ (by simp [loud])
      rw [taken]
      exact nofun
  · intro loud
    rw [answered]
    rcases compiler.reply_of_crashed files options after crashed with
      ⟨blank, -⟩ | ⟨-, first, others, said, taken⟩
    · rw [loud] at blank
      cases blank
    · exact ⟨first, others, said, taken⟩

/-! ## A package with a compiler that crashes -/

open Emitter (packageWith packageContext)

/-- The compiler of the package. -/
def packageCompiler : Compiler := ⟨Compiler.installedIn .root, .root, 120⟩

/-- The options for its sources. -/
def packageOptions : Options := (Configuration.emitter .default).options packageContext .root

/-- A compiler whose runs all end in the same way. -/
def endingCompiler (execution : Execution) : Program where
  executable := true
  execute _ _ := some execution

/-- The compiler of the package runs to its end. -/
theorem outcome_start_packageCompiler (execution : Execution) :
    ∃ ran, outcome (packageCompiler.start [.ofString "/src/a.ts"] packageOptions)
      (packageWith (endingCompiler execution)).workspace = (.ok (some execution), ran) := by
  have startable : (packageWith (endingCompiler execution)).workspace.startable
      packageCompiler.program packageCompiler.projectRoot
      (packageOptions.arguments [.ofString "/src/a.ts"]) =
      .ok (some [Utf8.encode "node_modules", Utf8.encode ".bin", Utf8.encode "tsc"],
        endingCompiler execution, []) := rfl
  exact ⟨_, Action.outcome_execute_of_startable startable (by decide) rfl⟩

/-- A crash of which only the errors tell, here with an octet that is no text: a signal ended it. -/
def segmentationFault : Execution where
  writes := []
  stdout := Utf8.encode "\n"
  stderr := Utf8.encode "Segmentation fault" ++ [255] ++ Utf8.encode " \n"
  ending := .signal 11

/-- It is told without an exit code, by what was printed without the white space around it. -/
theorem emit_of_crash_sample :
    (outcome (packageCompiler.emit [.ofString "/src/a.ts"] packageOptions)
      (packageWith (endingCompiler segmentationFault)).workspace).1 =
        .error (.silentExit (-1) "Segmentation fault\uFFFD") := by
  obtain ⟨ran, started⟩ := outcome_start_packageCompiler segmentationFault
  have crashed : Crashed segmentationFault "\n" := ⟨rfl, Utf8.decode_encode "\n", by decide⟩
  have told : crashFault segmentationFault "\n" = .silentExit (-1) "Segmentation fault\uFFFD" := by
    decide +kernel
  rw [← told]
  exact (Compiler.emit_of_crash_iff started crashed).1.mpr rfl

/-- Not every crash is told as one: with a line of output before it, a crash is taken for an error
in the sources. -/
theorem not_forall_emit_of_crash :
    ¬∀ (compiler : Compiler) (files : List Path) (options : Options) (workspace ran : Workspace)
        (execution : Execution) (text : String),
      outcome (compiler.start files options) workspace = (.ok (some execution), ran) →
      Crashed execution text →
      (outcome (compiler.emit files options) workspace).1 = .error (crashFault execution text) := by
  intro always
  let text := "FATAL ERROR: out of memory\n"
  obtain ⟨ran, started⟩ := outcome_start_packageCompiler ⟨[], Utf8.encode text, [], .exit 134⟩
  have crashed : Crashed ⟨[], Utf8.encode text, [], .exit 134⟩ text :=
    ⟨rfl, Utf8.decode_encode text, by decide +kernel⟩
  have told := congrArg Except.isOk (always _ _ _ _ _ _ _ started crashed)
  exact absurd told (by decide +kernel)

end Declarations

end BundleFinish
