import BundleFinish.Declarations.Options
import BundleFinish.Proofs.AbsolutePaths
import BundleFinish.Proofs.Artifacts

/-! # Where declarations are emitted

A type-checker puts the declaration of a source below the output directory as the source is below
the root; a source has its output files directly in the output directory, under its base name. The
two places of the declaration are one exactly for a source with a file name that is directly in the
root or not below it (`Declarations.Options.same_declarationPath_iff`). -/

namespace BundleFinish

namespace Path

/-! ## Paths below another path -/

variable {path : Path} {root : Location}

/-- A path whose components start at the root is absolute. -/
theorem isAbsolute_of_components {rest : List Component} (shape : path.components = .root :: rest) :
    path.isAbsolute = true := by
  by_contra relative
  have member : Component.root ∈ path.components := shape ▸ List.mem_cons_self
  exact root_not_mem_components (Bool.eq_false_iff.mpr relative) member

/-- Pieces that start with one that counts are spelled as a relative path. -/
theorem isAbsolute_ofPieces {pieces : List Piece} (plain : ∀ piece ∈ pieces, piece.IsPlain)
    (first : ∀ piece ∈ pieces.head?, piece.counts = true) :
    (ofPieces false pieces).isAbsolute = false := by
  rcases pieces with _ | ⟨piece, others⟩
  · rfl
  · have isPlain := plain piece List.mem_cons_self
    have spoken : piece.octets ≠ [] := by
      have counts := isPlain.counts_eq.symm.trans (first piece rfl)
      intro empty
      simp [saysNothing, empty] at counts
    obtain ⟨octet, rest, octets⟩ := List.exists_cons_of_ne_nil spoken
    have noSlash : octet ≠ slash := fun same =>
      isPlain.noSlash (by rw [octets, same]; exact List.mem_cons_self)
    rcases others with _ | ⟨next, more⟩ <;>
      simp [ofPieces, isAbsolute, joinSlash, octets, noSlash]

/-- A path below that of a location, relative to it: what is left are the pieces of the components
behind those of the location. -/
theorem exists_relativeTo (areRoot : root.AreNames) {rest : List Component}
    (below : path.components = root.path.components ++ rest) :
    ∃ pieces, path.relativeTo root.path = some (ofPieces false pieces) ∧
      (∀ piece ∈ pieces, piece.IsPlain) ∧ componentsOf pieces = rest ∧
      (∀ piece ∈ pieces.head?, piece.counts = true) ∧
      ∀ piece ∈ pieces.getLast?, piece.counts = true := by
  have shape := below
  rw [Location.components_path areRoot, List.cons_append] at shape
  have absolute := isAbsolute_of_components shape
  have named : path.relativeTo root.path =
      some (ofPieces false (trimBack (trimFront (dropComponents root.length path.pieces)))) := by
    have isPrefix : root.path.components.isPrefixOf path.components = true :=
      List.isPrefixOf_iff_prefix.mpr ⟨rest, below.symm⟩
    have ne : root.path.components ≠ [] := by
      rw [Location.components_path areRoot]
      exact List.cons_ne_nil _ _
    have count : root.path.components.length - 1 = root.length := by
      rw [Location.components_path areRoot, List.length_cons, List.length_map,
        Nat.add_sub_cancel]
    rw [relativeTo, if_pos isPrefix, if_neg ne]
    dsimp only
    rw [if_pos absolute, count]
  refine ⟨_, named, ?_, ?_, ?_, ?_⟩
  · intro piece member
    exact isPlain_of_mem_pieces absolute
      (mem_of_mem_dropComponents (mem_of_mem_trimFront (mem_of_mem_trimBack member)))
  · rw [components_of_isAbsolute absolute] at shape
    rw [componentsOf_trimBack, componentsOf_trimFront, componentsOf_dropComponents,
      (List.cons.inj shape).2, List.drop_left' (by simp)]
  · exact fun piece first => counts_of_mem_head?_trimFront (mem_head?_of_mem_head?_trimBack first)
  · exact fun piece last => counts_of_mem_getLast?_trimBack last

/-- Pieces that make up one component, of which the first and the last count, are one piece. -/
theorem exists_eq_singleton {pieces : List Piece} {component : Component}
    (one : componentsOf pieces = [component]) (first : ∀ piece ∈ pieces.head?, piece.counts = true)
    (last : ∀ piece ∈ pieces.getLast?, piece.counts = true) :
    ∃ piece, pieces = [piece] ∧ piece.component = component := by
  rcases pieces with _ | ⟨piece, others⟩
  · cases one
  · have counts := first piece rfl
    rw [← List.singleton_append, componentsOf_append, componentsOf_singleton counts,
      List.singleton_append, List.cons.injEq] at one
    rcases List.eq_nil_or_concat' others with rfl | ⟨before, final, rfl⟩
    · exact ⟨piece, rfl, one.1⟩
    · have heard := last final (by rw [← List.cons_append, List.getLast?_concat]; rfl)
      rw [componentsOf_append, componentsOf_singleton heard] at one
      exact absurd one.2 (by simp)

end Path

namespace Declarations

open BundleFinish.Path

variable {options : Options} {root out : Location} {source : Path} {base : String}

/-! ## The place of a declaration -/

/-- A source stands directly in a directory, or not below it at all. -/
def PlacedDirectly (directory source : Path) : Prop :=
  (∃ name, source.components = directory.components ++ [.name name]) ∨
    ¬directory.components <+: source.components

/-- The script beside the declaration of a source. -/
def Options.siblingScript (options : Options) (source : Path) : Path :=
  (options.declarationPath source).withFileName
    (Utf8.encode ((ArtifactPair.baseName? source).getD "" ++ ".js"))

/-- The place of a source below the output directory. -/
def Options.output (options : Options) (source : Path) : Path :=
  options.outDir.join
    (match source.relativeTo options.rootDir with
    | some below => below
    | none => ⟨source.fileName.getD []⟩)

/-- The declaration of a source is beside the place of the source below the output directory. -/
theorem Options.declarationPath_eq (options : Options) (source : Path) :
    options.declarationPath source = (options.output source).withFileName
      (Utf8.encode (((options.output source).fileStem.map Utf8.decodeLossy).getD "" ++ ".d.ts")) :=
  rfl

/-- A source below the root is below the output directory by the same components. -/
theorem Options.components_output (isRoot : options.rootDir = root.path)
    (areRoot : root.AreNames) (isOut : options.outDir = out.path) {rest : List Component}
    (below : source.components = options.rootDir.components ++ rest) :
    (options.output source).isAbsolute = true ∧
      (options.output source).components = options.outDir.components ++ rest := by
  rw [isRoot] at below
  obtain ⟨pieces, relative, plain, rfl, first, -⟩ := exists_relativeTo areRoot below
  have notAbsolute := isAbsolute_ofPieces plain first
  have ne : options.outDir.octets ≠ [] := by
    rw [isOut]
    exact out.octets_path_ne_nil
  rw [Options.output, isRoot, relative]
  refine ⟨?_, ?_⟩
  · rw [isAbsolute_join ne notAbsolute, isOut]
    exact out.isAbsolute_path
  · rw [components_join ne notAbsolute]
    exact congrArg _ (steps_joinSlash plain)

/-- A source that is placed directly is an entry of the output directory under its own name. -/
theorem Options.output_of_placedDirectly (isRoot : options.rootDir = root.path)
    (areRoot : root.AreNames) (isOut : options.outDir = out.path) (areOut : out.AreNames)
    (direct : PlacedDirectly options.rootDir source) {name : Bytes}
    (last : source.fileName = some name) :
    options.output source = Location.path (out ++ [name]) := by
  have relative : (match source.relativeTo options.rootDir with
      | some below => below
      | none => ⟨source.fileName.getD []⟩) = Path.mk name := by
    rcases direct with ⟨other, below⟩ | apart
    · have atEnd := getLast?_components_of_fileName last
      rw [below, List.getLast?_concat] at atEnd
      cases atEnd
      rw [isRoot] at below ⊢
      obtain ⟨pieces, relative, plain, one, first, final⟩ := exists_relativeTo areRoot below
      obtain ⟨piece, rfl, component⟩ := exists_eq_singleton one first final
      rw [relative]
      unfold Piece.component at component
      split_ifs at component
      exact congrArg Path.mk (Component.name.inj component)
    · have none : source.relativeTo options.rootDir = none := by
        rw [relativeTo, if_neg]
        rwa [List.isPrefixOf_iff_prefix]
      rw [none, last, Option.getD_some]
  rw [Options.output, relative, isOut]
  exact Location.path_join_name areOut (isName_of_fileName last)

/-- The declaration of a source that is placed directly, and the script beside it, are those of its
base name. -/
theorem Options.declarationPath_of_placedDirectly (isRoot : options.rootDir = root.path)
    (areRoot : root.AreNames) (isOut : options.outDir = out.path) (areOut : out.AreNames)
    (direct : PlacedDirectly options.rootDir source)
    (named : ArtifactPair.baseName? source = some base) :
    options.declarationPath source = options.outDir.joinText (base ++ ".d.ts") ∧
      options.siblingScript source = options.outDir.joinText (base ++ ".js") := by
  have noSlash := ArtifactPair.slash_not_mem_baseName named
  obtain ⟨name, last, rfl⟩ := ArtifactPair.baseName?_eq_some_iff.mp named
  have isName := isName_of_fileName last
  have output := Options.output_of_placedDirectly isRoot areRoot isOut areOut direct last
  have file : (options.output source).fileName = some name := by
    rw [output, ← Location.path_join_name areOut isName]
    exact fileName_join_name out.path isName
  have declaration : options.declarationPath source =
      options.outDir.joinText (Utf8.decodeLossy (splitExtension name).1 ++ ".d.ts") := by
    rw [Options.declarationPath_eq, fileStem, file, output,
      Location.path_withFileName areOut isName, isOut]
    rfl
  refine ⟨declaration, ?_⟩
  have isDeclaration := ArtifactPair.isName_declaration noSlash
  rw [Options.siblingScript, named, Option.getD_some, declaration, isOut, joinText, ofString,
    Location.path_join_name areOut isDeclaration, Location.path_withFileName areOut isDeclaration]
  rfl

/-- The declaration replaces the last name of the place of its source. -/
theorem Options.exists_components_declarationPath
    (absolute : (options.output source).isAbsolute = true) {before : List Component} {name : Bytes}
    (shape : (options.output source).components = before ++ [.name name]) :
    ∃ other, (options.declarationPath source).components = before ++ [.name other] := by
  have last : (options.output source).fileName = some name := by
    rw [fileName, shape, List.getLast?_concat]
  have named := ArtifactPair.baseName?_eq_some_iff.mpr ⟨name, last, rfl⟩
  have isName := ArtifactPair.isName_declaration (ArtifactPair.slash_not_mem_baseName named)
  refine ⟨Utf8.encode (Utf8.decodeLossy (splitExtension name).1 ++ ".d.ts"), ?_⟩
  rw [Options.declarationPath_eq, fileStem, last]
  exact components_withFileName absolute last isName shape

/-- The declaration of the root itself stands for the output directory, and not in it. -/
theorem Options.components_declarationPath_ne (isRoot : options.rootDir = root.path)
    (areRoot : root.AreNames) (isOut : options.outDir = out.path) (areOut : out.AreNames)
    (same : source.components = options.rootDir.components) (nonempty : base ≠ "") :
    (options.declarationPath source).components ≠
      options.outDir.components ++ [.name (Utf8.encode (base ++ ".d.ts"))] := by
  intro inside
  obtain ⟨absolute, output⟩ := Options.components_output isRoot areRoot isOut
    (same.trans (List.append_nil _).symm)
  rw [List.append_nil] at output
  rcases List.eq_nil_or_concat' out with rfl | ⟨above, directory, rfl⟩
  · -- The root directory has no name, and the extension alone becomes the name.
    have bare : (options.output source).fileName = none := by
      rw [fileName, output, isOut]
      rfl
    rw [Options.declarationPath_eq, withFileName, fileStem, bare] at inside
    change ((options.output source).join ⟨Utf8.encode ".d.ts"⟩).components = _ at inside
    rw [components_join_name _ (by decide), output, List.append_cancel_left_eq,
      List.singleton_inj, Component.name.injEq, Utf8.encode_append, List.self_eq_append_left]
      at inside
    exact nonempty (Utf8.encode_injective inside)
  · have shape : (options.output source).components =
        (.root :: above.map .name) ++ [.name directory] := by
      rw [output, isOut, Location.components_path areOut, List.map_append]
      rfl
    obtain ⟨other, declaration⟩ := Options.exists_components_declarationPath absolute shape
    rw [declaration, ← output, shape] at inside
    simpa using congrArg List.length inside

/-- The declaration of a source goes where its base name says exactly if the source has a file name
and is placed directly. -/
theorem Options.same_declarationPath_iff (isRoot : options.rootDir = root.path)
    (areRoot : root.AreNames) (isOut : options.outDir = out.path) (areOut : out.AreNames)
    (source : Path) :
    (∃ pair, ArtifactPair.ofSource? options.outDir source = some pair ∧
        pair.declaration.same (options.declarationPath source) = true) ↔
      source.fileName.isSome = true ∧ PlacedDirectly options.rootDir source := by
  constructor
  · rintro ⟨pair, paired, same⟩
    obtain ⟨base, named, noSlash, rfl⟩ := ArtifactPair.ofSource?_eq_some_iff.mp paired
    have isDeclaration := ArtifactPair.isName_declaration noSlash
    rw [same_iff] at same
    change (options.outDir.join ⟨Utf8.encode (base ++ ".d.ts")⟩).components = _ at same
    rw [components_join_name _ isDeclaration] at same
    have nonempty := ArtifactPair.baseName_ne_empty named
    obtain ⟨name, last, rfl⟩ := ArtifactPair.baseName?_eq_some_iff.mp named
    refine ⟨by rw [last]; rfl, ?_⟩
    by_cases inside : options.rootDir.components <+: source.components
    case neg => exact .inr inside
    obtain ⟨rest, below⟩ := inside
    have atEnd := getLast?_components_of_fileName last
    obtain ⟨absolute, output⟩ := Options.components_output isRoot areRoot isOut below.symm
    rcases List.eq_nil_or_concat' rest with rfl | ⟨before, final, rfl⟩
    · rw [List.append_nil] at below
      exact absurd same.symm
        (Options.components_declarationPath_ne isRoot areRoot isOut areOut below.symm nonempty)
    · -- Each directory between the root and the source makes the declaration one name deeper.
      obtain rfl : final = .name name := by
        rw [← below, ← List.append_assoc, List.getLast?_concat] at atEnd
        exact Option.some.inj atEnd
      rw [← List.append_assoc] at output
      obtain ⟨other, declaration⟩ := Options.exists_components_declarationPath absolute output
      rw [declaration, List.append_assoc, List.append_cancel_left_eq] at same
      have lengths := congrArg List.length same
      rw [List.length_append, List.length_singleton, List.length_singleton, Nat.right_eq_add,
        List.length_eq_zero_iff] at lengths
      exact .inl ⟨name, by rw [← below, lengths, List.nil_append]⟩
  · rintro ⟨present, direct⟩
    obtain ⟨name, last⟩ := Option.isSome_iff_exists.mp present
    have named := ArtifactPair.baseName?_eq_some_iff.mpr ⟨name, last, rfl⟩
    obtain ⟨declaration, -⟩ :=
      Options.declarationPath_of_placedDirectly isRoot areRoot isOut areOut direct named
    refine ⟨_, ArtifactPair.ofSource?_eq_some_iff.mpr
      ⟨_, named, ArtifactPair.slash_not_mem_baseName named, rfl⟩, ?_⟩
    rw [declaration, same_iff]

end Declarations

end BundleFinish
