import BundleFinish.Proofs.Confinement

/-! # Declarations mirror the root directory

A source below the root has its declaration in the output directory as it stands itself in the root:
behind the same directories, under its name without the last extension. A source that is elsewhere
has it directly in the output directory. Both hold for every output directory, relative ones and
ones in any spelling included (`Declarations.Options.declarationPath_mirrors_root`). -/

namespace BundleFinish

namespace Path

variable {path : Path}

/-! ## Names without their extension -/

/-- A stem is a name without its last extension: what stands before the last dot, or all of a name
that has no dot behind its first octet. -/
def IsStemOf (stem name : Bytes) : Prop :=
  (∃ extension, dot ∉ extension ∧ stem ≠ [] ∧ name = stem ++ dot :: extension) ∨
    stem = name ∧ dot ∉ name.tail

/-- A name is split at its last dot, unless nothing stands before it. -/
theorem splitExtension_append_dot {before extension : Bytes} (last : dot ∉ extension) :
    splitExtension (before ++ dot :: extension) =
      if before = [] then (before ++ dot :: extension, none) else (before, some extension) := by
  have behind : ∀ octet ∈ extension.reverse, (octet != dot) = true := fun octet member => by
    simpa using fun same : octet = dot => last (same ▸ List.mem_reverse.mp member)
  rw [splitExtension, List.reverse_append, List.reverse_cons, List.append_assoc,
    List.takeWhile_append_of_pos behind, List.dropWhile_append_of_pos behind]
  simp

/-- A name without a dot has no extension. -/
theorem splitExtension_of_not_mem {name : Bytes} (undotted : dot ∉ name) :
    splitExtension name = (name, none) := by
  have all : ∀ octet ∈ name.reverse, (octet != dot) = true := fun octet member => by
    simpa using fun same : octet = dot => undotted (same ▸ List.mem_reverse.mp member)
  rw [splitExtension, List.dropWhile_eq_nil_iff.mpr all]
  rfl

/-- A name with no dot behind its first octet is not split. -/
theorem splitExtension_of_not_mem_tail {name : Bytes} (undotted : dot ∉ name.tail) :
    splitExtension name = (name, none) := by
  rcases name with _ | ⟨first, rest⟩
  · rfl
  · by_cases dotted : first = dot
    · subst dotted
      exact (splitExtension_append_dot undotted : splitExtension ([] ++ dot :: rest) = _)
    · refine splitExtension_of_not_mem (List.mem_cons.not.mpr (not_or.mpr ⟨?_, undotted⟩))
      exact fun same => dotted same.symm

/-- A name has one stem. -/
theorem isStemOf_iff {stem name : Bytes} :
    IsStemOf stem name ↔ stem = (splitExtension name).1 := by
  constructor
  · rintro (⟨extension, last, some, rfl⟩ | ⟨rfl, undotted⟩)
    · rw [splitExtension_append_dot last, if_neg some]
    · rw [splitExtension_of_not_mem_tail undotted]
  · rintro rfl
    by_cases dotted : dot ∈ name
    case neg =>
      rw [splitExtension_of_not_mem dotted]
      exact .inr ⟨rfl, fun member => dotted (List.mem_of_mem_tail member)⟩
    case pos =>
      obtain ⟨behind, front, shape, last⟩ :=
        List.eq_append_cons_of_mem (List.mem_reverse.mpr dotted)
      have split : name = front.reverse ++ dot :: behind.reverse := by
        rw [← List.reverse_reverse name, shape]
        simp
      have isLast : dot ∉ behind.reverse := fun member => last (List.mem_reverse.mp member)
      rw [split, splitExtension_append_dot isLast]
      split_ifs with empty
      · rw [empty]
        exact .inr ⟨rfl, isLast⟩
      · exact .inl ⟨behind.reverse, isLast, empty, rfl⟩

/-- The stem of a name that is text is text. -/
theorem exists_stem_of_encode (text : String) :
    ∃ stem : String, IsStemOf (Utf8.encode stem) (Utf8.encode text) := by
  by_cases dotted : '.' ∈ text.toList
  case neg =>
    exact ⟨text, .inr ⟨rfl, fun member =>
      dotted (Utf8.dot_mem_encode.mp (List.mem_of_mem_tail member))⟩⟩
  case pos =>
    obtain ⟨behind, front, shape, last⟩ :=
      List.eq_append_cons_of_mem (List.mem_reverse.mpr dotted)
    have split : text = String.ofList front.reverse ++ "." ++ String.ofList behind.reverse := by
      refine String.toList_inj.mp ?_
      rw [← List.reverse_reverse text.toList, shape]
      simp
    have isLast : dot ∉ Utf8.encode (String.ofList behind.reverse) :=
      Utf8.dot_mem_encode.not.mpr (by simpa using last)
    have octets : Utf8.encode text =
        Utf8.encode (String.ofList front.reverse) ++
          dot :: Utf8.encode (String.ofList behind.reverse) := by
      rw [split, Utf8.encode_append, Utf8.encode_append, List.append_assoc]
      rfl
    by_cases empty : Utf8.encode (String.ofList front.reverse) = []
    · refine ⟨text, .inr ⟨rfl, ?_⟩⟩
      rw [octets, empty]
      exact isLast
    · exact ⟨String.ofList front.reverse, .inl ⟨_, isLast, empty, octets⟩⟩

/-! ## Directories of paths in any spelling -/

/-- Pieces of a relative path are what they make up, if the first of them counts. -/
theorem components_ofPieces_relative {first : Piece} {others : List Piece}
    (spoken : first.octets ≠ []) (noSlash : slash ∉ first.octets) (counts : first.counts = true)
    (plain : ∀ piece ∈ others, piece.IsPlain) :
    (ofPieces false (first :: others)).components = componentsOf (first :: others) := by
  have split : splitSlash (ofPieces false (first :: others)).octets =
      first.octets :: others.map Piece.octets := by
    refine splitSlash_joinSlash (by simp) fun octets member => ?_
    rcases List.mem_cons.mp member with rfl | inOthers
    · exact noSlash
    · obtain ⟨piece, inPieces, rfl⟩ := List.mem_map.mp inOthers
      exact (plain piece inPieces).noSlash
  rw [components_eq split, front, if_neg spoken, steps_map_octets plain,
    ← List.singleton_append (l := others), componentsOf_append, componentsOf_singleton counts,
    Piece.component, stepOf]
  split_ifs <;> rfl

/-- The pieces of a relative path that is not empty: the first one counts, and plain ones follow. -/
theorem exists_pieces_of_relative (relative : path.isAbsolute = false)
    (some : path.components ≠ []) :
    ∃ first others, path.pieces = ⟨first, true⟩ :: others ∧ first ≠ [] ∧ slash ∉ first ∧
      ∀ piece ∈ others, piece.IsPlain := by
  obtain ⟨first, others, split⟩ := List.exists_cons_of_ne_nil (splitSlash_ne_nil path.octets)
  have noSlash : ∀ piece ∈ first :: others, slash ∉ piece := fun piece inPath =>
    slash_not_mem_of_mem_splitSlash (split ▸ inPath)
  have spoken : first ≠ [] := by
    rintro rfl
    refine some ?_
    rcases others with _ | ⟨next, more⟩
    · rw [components_eq split]
      rfl
    · have absolute := (isAbsolute_iff split).mpr ⟨rfl, List.cons_ne_nil next more⟩
      exact absurd absolute (by simp [relative])
  refine ⟨first, others.map fun octets => ⟨octets, !saysNothing octets⟩, ?_, spoken,
    noSlash first List.mem_cons_self, fun piece member => ?_⟩
  · rw [Path.pieces, if_neg (by simp [relative]), split]
    simp [spoken]
  · obtain ⟨octets, inOthers, rfl⟩ := List.mem_map.mp member
    exact ⟨rfl, noSlash octets (List.mem_cons_of_mem first inOthers)⟩

/-- The first pieces of a relative path are what they make up. -/
theorem components_ofPieces_of_front (relative : path.isAbsolute = false)
    (some : path.components ≠ []) {before : List Piece} (isPrefix : before <+: path.pieces) :
    (ofPieces false before).components = componentsOf before := by
  obtain ⟨first, others, spelled, spoken, noSlash, plain⟩ := exists_pieces_of_relative relative some
  rcases before with _ | ⟨head, tail⟩
  · rfl
  · rw [spelled, List.cons_prefix_cons] at isPrefix
    obtain ⟨rfl, behind⟩ := isPrefix
    exact components_ofPieces_relative spoken noSlash rfl
      fun other member => plain other (behind.mem member)

/-- The directory of a path with a file name has all components but the last, also where the path is
relative. -/
theorem exists_parent_of_fileName {name : Bytes} (last : path.fileName = some name) :
    ∃ above, path.parent = some above ∧ path.components = above.components ++ [.name name] := by
  by_cases absolute : path.isAbsolute = true
  · obtain ⟨above, isParent, -, shape⟩ := exists_parent absolute last
    exact ⟨above, isParent, shape⟩
  · have relative : path.isAbsolute = false := Bool.eq_false_iff.mpr absolute
    have components : path.components = componentsOf path.pieces := by
      rw [Path.components, if_neg absolute, componentsOf]
    have atEnd := getLast?_components_of_fileName last
    have nonempty : path.components ≠ [] := fun none => by rw [none] at atEnd; cases atEnd
    rw [components, ← componentsOf_trimBack] at atEnd
    rcases List.eq_nil_or_concat' (trimBack path.pieces) with none | ⟨before, piece, shape⟩
    · rw [none] at atEnd
      cases atEnd
    · have atBack : piece ∈ (trimBack path.pieces).getLast? := by
        rw [shape, List.getLast?_concat]
        rfl
      have counts := counts_of_mem_getLast?_trimBack atBack
      have isName : piece.component = .name name := by
        rw [shape, componentsOf_append, componentsOf_singleton counts,
          List.getLast?_concat] at atEnd
        exact Option.some.inj atEnd
      have isPrefix : trimBack before <+: path.pieces := by
        obtain ⟨blank, beforeShape, -⟩ := exists_trimBack before
        obtain ⟨rest, pathShape, -⟩ := exists_trimBack path.pieces
        rw [shape] at pathShape
        exact (beforeShape ▸ List.prefix_append _ blank).trans
          (pathShape ▸ (List.prefix_append before [piece]).trans (List.prefix_append _ rest))
      refine ⟨ofPieces false (trimBack before), ?_, ?_⟩
      · rw [parent, shape, List.reverse_append, relative]
        simp
      · rw [components_ofPieces_of_front relative nonempty isPrefix, components,
          ← componentsOf_trimBack path.pieces, shape, componentsOf_append,
          componentsOf_singleton counts, isName, componentsOf_trimBack]

/-- Another file name replaces the last component, also in a relative path. -/
theorem components_withFileName_of_fileName {old name : Bytes} (last : path.fileName = some old)
    (isName : isName name = true) {before : List Component}
    (shape : path.components = before ++ [.name old]) :
    (path.withFileName name).components = before ++ [.name name] := by
  obtain ⟨above, isParent, components⟩ := exists_parent_of_fileName last
  rw [withFileName, last, isParent]
  have same : above.components = before :=
    List.append_cancel_right (components.symm.trans shape)
  rw [← same]
  exact components_join_name above isName

end Path

namespace Declarations.Options

open BundleFinish.Path

variable {options : Options} {source : Path}

/-! ## Places below an output directory in any spelling -/

/-- A path below a canonical one goes below any directory by the components behind it. -/
theorem exists_relativeTo_join {root path : Path} (canonical : root.IsCanonical)
    {rest : List Component} (below : path.components = root.components ++ rest)
    (directory : Path) :
    ∃ relative, path.relativeTo root = some relative ∧
      (directory.join relative).components = directory.components ++ rest := by
  obtain ⟨names, areNames, rfl⟩ := isCanonical_iff.mp canonical
  obtain ⟨pieces, relative, plain, rfl, counts, -⟩ := exists_relativeTo areNames below
  refine ⟨_, relative, ?_⟩
  by_cases spelled : directory.octets = []
  · obtain rfl : directory = Path.empty := congrArg Path.mk spelled
    rw [empty_join]
    rcases pieces with _ | ⟨first, others⟩
    · rfl
    · have firstPlain := plain first List.mem_cons_self
      have firstCounts := counts first rfl
      have spoken : first.octets ≠ [] := by
        intro empty
        rw [firstPlain.counts_eq, empty] at firstCounts
        cases firstCounts
      exact components_ofPieces_relative spoken firstPlain.noSlash firstCounts
        fun piece member => plain piece (List.mem_cons_of_mem first member)
  · rw [components_join spelled (isAbsolute_ofPieces plain counts)]
    exact congrArg _ (steps_joinSlash plain)

/-- The stem of a file name and the extension of declarations are a name. -/
theorem isName_declaration_of_fileName {name : Bytes} (last : source.fileName = some name) :
    isName (Utf8.encode (Utf8.decodeLossy (splitExtension name).1 ++ ".d.ts")) = true :=
  ArtifactPair.isName_declaration (ArtifactPair.slash_not_mem_baseName
    (ArtifactPair.baseName?_eq_some_iff.mpr ⟨name, last, rfl⟩))

/-- The declaration replaces the last name of the place of its source, in any output directory. -/
theorem components_declarationPath {before : List Component} {name : Bytes}
    (shape : (options.output source).components = before ++ [.name name]) :
    (options.declarationPath source).components =
      before ++ [.name (Utf8.encode (Utf8.decodeLossy (splitExtension name).1 ++ ".d.ts"))] := by
  have last : (options.output source).fileName = some name := by
    rw [fileName, shape, List.getLast?_concat]
  rw [declarationPath_eq, fileStem, last]
  exact components_withFileName_of_fileName last (isName_declaration_of_fileName last) shape

/-- The declaration of a source inside the root is behind the directories of the source, under its
name without the extension. -/
theorem components_declarationPath_of_isInside (canonical : options.rootDir.IsCanonical)
    {directories : List Component} {name : Bytes}
    (below : source.components = options.rootDir.components ++ (directories ++ [.name name])) :
    (options.declarationPath source).components = options.outDir.components ++ directories ++
      [.name (Utf8.encode (Utf8.decodeLossy (splitExtension name).1 ++ ".d.ts"))] := by
  obtain ⟨relative, isRelative, place⟩ := exists_relativeTo_join canonical below options.outDir
  have stands : (options.output source).components =
      options.outDir.components ++ directories ++ [.name name] := by
    rw [output, isRelative, place, List.append_assoc]
  exact components_declarationPath stands

/-- A source that is not below the root has its declaration directly in the output directory. -/
theorem components_declarationPath_of_apart {name : Bytes} (last : source.fileName = some name)
    (apart : ¬options.rootDir.components <+: source.components) :
    (options.declarationPath source).components = options.outDir.components ++
      [.name (Utf8.encode (Utf8.decodeLossy (splitExtension name).1 ++ ".d.ts"))] := by
  have stands : (options.output source).components = options.outDir.components ++ [.name name] := by
    rw [output, relativeTo, if_neg (List.isPrefixOf_iff_prefix.not.mpr apart)]
    dsimp only
    rw [last, Option.getD_some, components_join_name _ (isName_of_fileName last)]
  exact components_declarationPath stands

/-- A source inside a directory that has a file name: behind the directory are other directories and
that name. -/
theorem exists_directories_of_isInside {directory : Path} {name : Bytes}
    (inside : source.IsInside directory) (last : source.fileName = some name) :
    ∃ directories, source.components = directory.components ++ (directories ++ [.name name]) := by
  obtain ⟨rest, some, below⟩ := inside
  obtain ⟨directories, final, rfl⟩ := (List.eq_nil_or_concat' rest).resolve_left some
  have atEnd := getLast?_components_of_fileName last
  rw [below, ← List.append_assoc, List.getLast?_concat] at atEnd
  rw [Option.some.inj atEnd] at below
  exact ⟨directories, below⟩

/-- The directory of a canonical path with a file name is canonical, and has the components before
the name. -/
theorem exists_parent_of_isCanonical {path : Path} (canonical : path.IsCanonical)
    {before : List Component} {name : Bytes} (shape : path.components = before ++ [.name name]) :
    ∃ above : Path, above.IsCanonical ∧ path.parent = some above ∧ above.components = before := by
  obtain ⟨names, areNames, rfl⟩ := isCanonical_iff.mp canonical
  rw [Location.components_path areNames] at shape
  rcases List.eq_nil_or_concat' names with rfl | ⟨names, last, rfl⟩
  · -- The root directory has no name.
    rcases before with _ | ⟨first, others⟩ <;> simp at shape
  · have areAbove : Location.AreNames names :=
      fun other member => areNames other (List.mem_append_left _ member)
    have isLast := areNames last (List.mem_append_right _ (List.mem_singleton_self last))
    rw [List.map_append, List.map_singleton, ← List.cons_append] at shape
    refine ⟨Location.path names, isCanonical_iff.mpr ⟨names, areAbove, rfl⟩,
      Location.parent_path_concat areAbove isLast, ?_⟩
    rw [Location.components_path areAbove]
    exact List.append_inj_left' shape rfl

/-- Canonical paths with file names have one directory exactly if they have the same components
before their names. -/
theorem parent_eq_iff {p q : Path} (canonicalP : p.IsCanonical) (canonicalQ : q.IsCanonical)
    {beforeP beforeQ : List Component} {nameP nameQ : Bytes}
    (shapeP : p.components = beforeP ++ [.name nameP])
    (shapeQ : q.components = beforeQ ++ [.name nameQ]) :
    p.parent = q.parent ↔ beforeP = beforeQ := by
  obtain ⟨aboveP, isCanonicalP, parentP, rfl⟩ := exists_parent_of_isCanonical canonicalP shapeP
  obtain ⟨aboveQ, isCanonicalQ, parentQ, rfl⟩ := exists_parent_of_isCanonical canonicalQ shapeQ
  rw [parentP, parentQ, Option.some_inj]
  exact ⟨congrArg Path.components, isCanonicalP.eq_of_same isCanonicalQ⟩

/-- **Mirrored declarations.** With a canonical root, a source inside the root whose file name is
text has its declaration in the output directory behind its own directory relative to the root,
under its name without the last extension. A source with a file name that is neither the root nor
below it has its declaration directly in the output directory. So two canonical sources inside the
root have one declaration exactly if they have one directory and one stem. -/
theorem declarationPath_mirrors_root (options : Options)
    (canonical : options.rootDir.IsCanonical) :
    (∀ source name, source.IsInside options.rootDir → source.fileName = some (Utf8.encode name) →
      ∃ stem directory below, IsStemOf (Utf8.encode stem) (Utf8.encode name) ∧
        source.parent = some directory ∧ directory.relativeTo options.rootDir = some below ∧
        (options.declarationPath source).same
          ((options.outDir.join below).joinText (stem ++ ".d.ts")) = true) ∧
    (∀ source name, source.fileName = some name →
      ¬options.rootDir.components <+: source.components →
        ∃ stem, IsStemOf stem name ∧ (options.declarationPath source).same
          (options.outDir.joinText (Utf8.decodeLossy stem ++ ".d.ts")) = true) ∧
    ∀ p q nameP nameQ, p.IsCanonical → q.IsCanonical → p.IsInside options.rootDir →
      q.IsInside options.rootDir → p.fileName = some (Utf8.encode nameP) →
      q.fileName = some (Utf8.encode nameQ) →
        ((options.declarationPath p).same (options.declarationPath q) = true ↔
          p.parent = q.parent ∧ p.fileStem = q.fileStem) := by
  refine ⟨fun source name inside last => ?_, fun source name last apart => ?_,
    fun p q nameP nameQ canonicalP canonicalQ insideP insideQ lastP lastQ => ?_⟩
  · obtain ⟨stem, isStem⟩ := exists_stem_of_encode name
    obtain ⟨directories, below⟩ := exists_directories_of_isInside inside last
    obtain ⟨directory, isParent, shape⟩ := exists_parent_of_fileName last
    have above : directory.components = options.rootDir.components ++ directories := by
      rw [below, ← List.append_assoc] at shape
      exact (List.append_inj_left' shape rfl).symm
    obtain ⟨relative, isRelative, joined⟩ :=
      exists_relativeTo_join canonical above options.outDir
    refine ⟨stem, directory, relative, isStem, isParent, isRelative, ?_⟩
    have isDeclaration := isName_declaration_of_fileName last
    rw [← isStemOf_iff.mp isStem, Utf8.decodeLossy_encode] at isDeclaration
    rw [same_iff, components_declarationPath_of_isInside canonical below, joinText, ofString,
      components_join_name _ isDeclaration, joined, ← isStemOf_iff.mp isStem,
      Utf8.decodeLossy_encode]
  · refine ⟨_, isStemOf_iff.mpr rfl, ?_⟩
    rw [same_iff, components_declarationPath_of_apart last apart, joinText, ofString,
      components_join_name _ (isName_declaration_of_fileName last)]
  · obtain ⟨stemP, isStemP⟩ := exists_stem_of_encode nameP
    obtain ⟨stemQ, isStemQ⟩ := exists_stem_of_encode nameQ
    obtain ⟨directoriesP, belowP⟩ := exists_directories_of_isInside insideP lastP
    obtain ⟨directoriesQ, belowQ⟩ := exists_directories_of_isInside insideQ lastQ
    have parents := parent_eq_iff canonicalP canonicalQ
      (belowP.trans (List.append_assoc _ _ _).symm) (belowQ.trans (List.append_assoc _ _ _).symm)
    rw [same_iff, components_declarationPath_of_isInside canonical belowP,
      components_declarationPath_of_isInside canonical belowQ, parents, fileStem, fileStem, lastP,
      lastQ, Option.map_some, Option.map_some, ← isStemOf_iff.mp isStemP, ← isStemOf_iff.mp isStemQ,
      Utf8.decodeLossy_encode, Utf8.decodeLossy_encode, Option.some_inj,
      Utf8.encode_injective.eq_iff, List.append_cancel_left_eq]
    constructor
    · intro same
      obtain ⟨directories, names⟩ := List.append_inj' same rfl
      rw [List.singleton_inj, Component.name.injEq, Utf8.encode_append, Utf8.encode_append,
        List.append_cancel_right_eq] at names
      exact ⟨List.append_cancel_left directories, Utf8.encode_injective names⟩
    · rintro ⟨rfl, rfl⟩
      rfl

/-- Below a relative output directory, the declaration of a source with two dots in its name keeps
the first; one of a directory whose name only starts as that of the root is not behind a directory;
and two scripts with one stem have one declaration. -/
theorem declarationPath_mirrors_root_sample :
    let options := isolated (.ofString "/p/src") (.ofString "dist/")
    options.rootDir.IsCanonical ∧
      (options.declarationPath (.ofString "/p/src/nested/view.test.tsx")).same
        (.ofString "dist/nested/view.test.d.ts") = true ∧
      (options.declarationPath (.ofString "/p/srcx/nested/a.ts")).same
        (.ofString "dist/a.d.ts") = true ∧
      (options.declarationPath (.ofString "/p/src/lib/a.ts")).same
        (options.declarationPath (.ofString "/p/src/lib/a.tsx")) = true := by
  intro options
  have canonical : ∀ behind : Bytes, (splitSlash behind).all isName = true →
      IsCanonical ⟨slash :: behind⟩ := fun behind names =>
    isCanonical_iff.mpr ⟨splitSlash behind, List.all_eq_true.mp names,
      by rw [Location.path, joinSlash_splitSlash]⟩
  have isRoot : options.rootDir.IsCanonical := canonical (Utf8.encode "p/src") (by decide)
  obtain ⟨mirrored, apart, one⟩ := declarationPath_mirrors_root options isRoot
  refine ⟨isRoot, ?_, ?_, ?_⟩
  · obtain ⟨stem, directory, below, isStem, isParent, isRelative, same⟩ :=
      mirrored (.ofString "/p/src/nested/view.test.tsx") "view.test.tsx"
        ⟨[.name (Utf8.encode "nested"), .name (Utf8.encode "view.test.tsx")], by simp, by decide⟩
        (by decide)
    obtain rfl : stem = "view.test" :=
      Utf8.encode_injective ((isStemOf_iff.mp isStem).trans (by decide))
    obtain rfl : directory = .ofString "/p/src/nested" :=
      Option.some.inj (isParent.symm.trans (by decide))
    obtain rfl : below = .ofString "nested" := Option.some.inj (isRelative.symm.trans (by decide))
    exact same_iff.mpr ((same_iff.mp same).trans (by decide))
  · obtain ⟨stem, isStem, same⟩ := apart (.ofString "/p/srcx/nested/a.ts") (Utf8.encode "a.ts")
      (by decide) (by decide)
    obtain rfl : stem = Utf8.encode "a" := (isStemOf_iff.mp isStem).trans (by decide)
    exact same_iff.mpr ((same_iff.mp same).trans (by decide))
  · have inside : ∀ name, (Path.ofString ("/p/src/lib/" ++ name)).components =
        options.rootDir.components ++ [.name (Utf8.encode "lib"), .name (Utf8.encode name)] →
        (Path.ofString ("/p/src/lib/" ++ name)).IsInside options.rootDir :=
      fun name below => ⟨_, by simp, below⟩
    exact (one (.ofString "/p/src/lib/a.ts") (.ofString "/p/src/lib/a.tsx") "a.ts" "a.tsx"
      (canonical (Utf8.encode "p/src/lib/a.ts") (by decide))
      (canonical (Utf8.encode "p/src/lib/a.tsx") (by decide)) (inside "a.ts" (by decide))
      (inside "a.tsx" (by decide)) (by decide) (by decide)).mpr (by decide)

end Declarations.Options

end BundleFinish
