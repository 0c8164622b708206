import BundleFinish.Declarations.Artifacts
import BundleFinish.Proofs.Paths

/-! # Where the output files of a source are

The script and the declaration file of a source are entries of the output directory, whose names
differ in nothing but the extension. -/

namespace BundleFinish

namespace Path

/-- A text with no slash that is longer than `..` is a name. -/
theorem isName_encode {text : String} (noSlash : '/' ∉ text.toList)
    (long : 2 < (Utf8.encode text).length) : isName (Utf8.encode text) = true := by
  rw [isName_iff, Utf8.slash_mem_encode]
  refine ⟨?_, ?_, ?_, noSlash⟩ <;>
  · intro short
    rw [short] at long
    simp at long

/-- What stands before the extension of a name is a part of it, and not empty. -/
theorem splitExtension_fst {name : Bytes} (ne : name ≠ []) :
    (splitExtension name).1 ≠ [] ∧ ∀ octet ∈ (splitExtension name).1, octet ∈ name := by
  unfold splitExtension
  dsimp only
  split_ifs with empty
  · exact ⟨ne, fun _ member => member⟩
  · refine ⟨empty, fun octet member => ?_⟩
    have inside := List.mem_reverse.mp ((List.dropLast_sublist _).mem member)
    exact List.mem_reverse.mp ((List.dropWhile_sublist _).mem inside)

end Path

namespace Declarations.ArtifactPair

open BundleFinish.Path

/-- The base name of a source is read off its file name. -/
theorem baseName?_eq_some_iff {source : Path} {base : String} :
    baseName? source = some base ↔
      ∃ name, source.fileName = some name ∧ base = Utf8.decodeLossy (splitExtension name).1 := by
  unfold baseName? fileStem
  rw [Option.map_map, Option.map_eq_some_iff]
  constructor
  · rintro ⟨name, last, rfl⟩
    exact ⟨name, last, rfl⟩
  · rintro ⟨name, last, rfl⟩
    exact ⟨name, last, rfl⟩

/-- The base name of a source has no slash. -/
theorem slash_not_mem_baseName {source : Path} {base : String}
    (named : baseName? source = some base) : '/' ∉ base.toList := by
  obtain ⟨name, last, rfl⟩ := baseName?_eq_some_iff.mp named
  obtain ⟨ne, -, -, noSlash⟩ := isName_iff.mp (isName_of_fileName last)
  exact Utf8.slash_not_mem_decodeLossy fun member =>
    noSlash ((splitExtension_fst ne).2 slash member)

/-- The base name of a source is not empty. -/
theorem baseName_ne_empty {source : Path} {base : String}
    (named : baseName? source = some base) : base ≠ "" := by
  obtain ⟨name, last, rfl⟩ := baseName?_eq_some_iff.mp named
  obtain ⟨ne, -⟩ := isName_iff.mp (isName_of_fileName last)
  exact fun empty => (splitExtension_fst ne).1 (Utf8.eq_nil_of_decodeLossy_eq empty)

/-- The name of a script. -/
theorem isName_script {base : String} (noSlash : '/' ∉ base.toList) :
    isName (Utf8.encode (base ++ ".js")) = true := by
  refine isName_encode ?_ ?_
  · rw [String.toList_append, List.mem_append, not_or]
    exact ⟨noSlash, by decide⟩
  · rw [Utf8.encode_append, List.length_append]
    have three : (Utf8.encode ".js").length = 3 := by decide
    omega

/-- The name of a declaration file. -/
theorem isName_declaration {base : String} (noSlash : '/' ∉ base.toList) :
    isName (Utf8.encode (base ++ ".d.ts")) = true := by
  refine isName_encode ?_ ?_
  · rw [String.toList_append, List.mem_append, not_or]
    exact ⟨noSlash, by decide⟩
  · rw [Utf8.encode_append, List.length_append]
    have five : (Utf8.encode ".d.ts").length = 5 := by decide
    omega

/-- The output files of a source are named by its base name. -/
theorem ofSource?_eq_some_iff {directory source : Path} {pair : ArtifactPair} :
    ofSource? directory source = some pair ↔
      ∃ base, baseName? source = some base ∧ '/' ∉ base.toList ∧
        pair = ⟨directory.joinText (base ++ ".js"), directory.joinText (base ++ ".d.ts")⟩ := by
  unfold ofSource?
  rw [Option.map_eq_some_iff]
  constructor
  · rintro ⟨base, named, rfl⟩
    exact ⟨base, named, slash_not_mem_baseName named, rfl⟩
  · rintro ⟨base, named, -, rfl⟩
    exact ⟨base, named, rfl⟩

/-- The name by which a script refers to its declaration file. -/
theorem declarationName_eq {directory : Path} {base : String} (noSlash : '/' ∉ base.toList) :
    declarationName
      ⟨directory.joinText (base ++ ".js"), directory.joinText (base ++ ".d.ts")⟩ =
        base ++ ".d.ts" := by
  unfold declarationName joinText ofString
  rw [fileName_join_name directory (isName_declaration noSlash), Option.map_some,
    Utf8.decodeLossy_encode, Option.getD_some]

end Declarations.ArtifactPair

end BundleFinish
