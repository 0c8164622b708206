import BundleFinish.Build.Options
import BundleFinish.Proofs.Trees
import BundleFinish.Proofs.Paths
import Mathlib.Data.List.Basic
import Mathlib.Data.List.TakeWhile

/-! # Absolute paths

An absolute path is the root and its pieces. The directory of a path, a path below another one, and
a path with another file name are known by their components; a path that was resolved is spelled as
that of a location (`Build.Options.exists_location_of_resolve`). -/

namespace BundleFinish

namespace Path

/-! ## Pieces of absolute paths -/

/-- A piece as absolute paths have them: it has no slash, and it counts unless it says nothing. -/
structure Piece.IsPlain (piece : Piece) : Prop where
  counts_eq : piece.counts = !saysNothing piece.octets
  noSlash : slash ∉ piece.octets

variable {path : Path} {pieces : List Piece}

/-- An absolute path has plain pieces. -/
theorem isPlain_of_mem_pieces (absolute : path.isAbsolute = true) {piece : Piece}
    (member : piece ∈ path.pieces) : piece.IsPlain := by
  unfold Path.pieces at member
  rw [if_pos absolute] at member
  obtain ⟨octets, inPath, rfl⟩ := List.mem_map.mp member
  exact ⟨rfl, slash_not_mem_of_mem_splitSlash inPath⟩

/-- The components that pieces make up. -/
def componentsOf (pieces : List Piece) : List Component :=
  (pieces.filter Piece.counts).map Piece.component

@[simp] theorem componentsOf_append (a b : List Piece) :
    componentsOf (a ++ b) = componentsOf a ++ componentsOf b := by
  simp [componentsOf]

/-- A piece that counts is a component of its own. -/
theorem componentsOf_singleton {piece : Piece} (counts : piece.counts = true) :
    componentsOf [piece] = [piece.component] := by
  simp [componentsOf, counts]

/-- Pieces that do not count make up nothing. -/
theorem componentsOf_eq_nil (none : ∀ piece ∈ pieces, piece.counts = false) :
    componentsOf pieces = [] := by
  rw [componentsOf, List.map_eq_nil_iff, List.filter_eq_nil_iff]
  intro piece member
  rw [none piece member]
  exact Bool.false_ne_true

/-- A relative path has no root in it. -/
theorem root_not_mem_components (relative : path.isAbsolute = false) :
    .root ∉ path.components := by
  intro member
  unfold components at member
  rw [if_neg (by simp [relative])] at member
  obtain ⟨piece, -, isRoot⟩ := List.mem_map.mp member
  unfold Piece.component at isRoot
  split_ifs at isRoot

/-- An absolute path is the root and what its pieces make up. -/
theorem components_of_isAbsolute (absolute : path.isAbsolute = true) :
    path.components = .root :: componentsOf path.pieces := by
  unfold components
  rw [if_pos absolute]
  rfl

/-- Plain pieces are the steps of their octets. -/
theorem steps_map_octets (plain : ∀ piece ∈ pieces, piece.IsPlain) :
    steps (pieces.map Piece.octets) = componentsOf pieces := by
  induction pieces with
  | nil => rfl
  | cons piece others ih =>
    have rest := ih fun other member => plain other (List.mem_cons_of_mem piece member)
    have counts := (plain piece List.mem_cons_self).counts_eq
    rw [List.map_cons, ← List.singleton_append, ← List.singleton_append (l := others),
      steps_append, componentsOf_append, rest]
    by_cases silent : saysNothing piece.octets = true
    · simp [steps, componentsOf, silent, counts]
    · have notDot : piece.octets ≠ [dot] := fun same => silent (by simp [saysNothing, same])
      simp [steps, componentsOf, silent, counts, stepOf, Piece.component, notDot]

/-- Plain pieces with slashes between them are what they make up. -/
theorem steps_joinSlash (plain : ∀ piece ∈ pieces, piece.IsPlain) :
    steps (splitSlash (joinSlash (pieces.map Piece.octets))) = componentsOf pieces := by
  rw [← steps_map_octets plain]
  rcases List.eq_nil_or_concat' pieces with rfl | ⟨before, last, rfl⟩
  · rfl
  · rw [splitSlash_joinSlash (by simp)]
    intro octets member
    obtain ⟨piece, inPieces, rfl⟩ := List.mem_map.mp member
    exact (plain piece inPieces).noSlash

/-- Pieces behind the root are what they make up. -/
theorem components_ofPieces (plain : ∀ piece ∈ pieces, piece.IsPlain) :
    (ofPieces true pieces).components = .root :: componentsOf pieces := by
  have split : splitSlash (ofPieces true pieces).octets =
      [] :: splitSlash (joinSlash (pieces.map Piece.octets)) := rfl
  rw [components_eq split, front, if_pos rfl, if_neg (splitSlash_ne_nil _), steps_joinSlash plain]
  rfl

/-- Pieces at the end that do not count make up nothing. -/
theorem exists_trimBack (pieces : List Piece) :
    ∃ blank, pieces = trimBack pieces ++ blank ∧ ∀ piece ∈ blank, piece.counts = false := by
  refine ⟨(pieces.reverse.takeWhile (!·.counts)).reverse, ?_, ?_⟩
  · rw [trimBack, ← List.reverse_append, List.takeWhile_append_dropWhile, List.reverse_reverse]
  · intro piece member
    have blank := List.mem_takeWhile_imp (List.mem_reverse.mp member)
    simpa using blank

/-- Pieces at the front that do not count make up nothing. -/
theorem exists_trimFront (pieces : List Piece) :
    ∃ blank, pieces = blank ++ trimFront pieces ∧ ∀ piece ∈ blank, piece.counts = false := by
  refine ⟨pieces.takeWhile (!·.counts), ?_, ?_⟩
  · rw [trimFront, List.takeWhile_append_dropWhile]
  · intro piece member
    have blank := List.mem_takeWhile_imp member
    simpa using blank

@[simp] theorem componentsOf_trimBack (pieces : List Piece) :
    componentsOf (trimBack pieces) = componentsOf pieces := by
  obtain ⟨blank, shape, silent⟩ := exists_trimBack pieces
  conv_rhs => rw [shape, componentsOf_append, componentsOf_eq_nil silent, List.append_nil]

@[simp] theorem componentsOf_trimFront (pieces : List Piece) :
    componentsOf (trimFront pieces) = componentsOf pieces := by
  obtain ⟨blank, shape, silent⟩ := exists_trimFront pieces
  conv_rhs => rw [shape, componentsOf_append, componentsOf_eq_nil silent, List.nil_append]

@[simp] theorem componentsOf_dropComponents (count : Nat) (pieces : List Piece) :
    componentsOf (dropComponents count pieces) = (componentsOf pieces).drop count := by
  fun_induction dropComponents count pieces with
  | case1 => simp [componentsOf]
  | case2 => simp
  | case3 count piece others counts ih => simpa [componentsOf, counts] using ih
  | case4 count piece others silent ih => simpa [componentsOf, silent] using ih

/-- Where pieces at the front are dropped, the first one that is left counts. -/
theorem counts_of_mem_head?_trimFront {piece : Piece}
    (first : piece ∈ (trimFront pieces).head?) : piece.counts = true := by
  have fails := List.head?_dropWhile_not (!·.counts) pieces
  rw [trimFront, Option.mem_def] at first
  rw [first] at fails
  simpa using fails

/-- Where pieces at the end are dropped, the last one that is left counts. -/
theorem counts_of_mem_getLast?_trimBack {piece : Piece}
    (last : piece ∈ (trimBack pieces).getLast?) : piece.counts = true := by
  rw [trimBack, List.getLast?_reverse] at last
  exact counts_of_mem_head?_trimFront last

/-- Pieces that are dropped at the end leave the first one. -/
theorem mem_head?_of_mem_head?_trimBack {piece : Piece}
    (first : piece ∈ (trimBack pieces).head?) : piece ∈ pieces.head? := by
  obtain ⟨blank, shape, -⟩ := exists_trimBack pieces
  rw [shape, List.head?_append, Option.mem_def.mp first]
  rfl

/-- What is left of pieces without those at the end are pieces of the same list. -/
theorem mem_of_mem_trimBack {piece : Piece} (member : piece ∈ trimBack pieces) :
    piece ∈ pieces := by
  obtain ⟨blank, shape, -⟩ := exists_trimBack pieces
  rw [shape]
  exact List.mem_append_left blank member

/-- What is left of pieces without those at the front are pieces of the same list. -/
theorem mem_of_mem_trimFront {piece : Piece} (member : piece ∈ trimFront pieces) :
    piece ∈ pieces :=
  List.dropWhile_sublist _ |>.mem member

/-- What is left of pieces without some components are pieces of the same list. -/
theorem mem_of_mem_dropComponents {count : Nat} {piece : Piece}
    (member : piece ∈ dropComponents count pieces) : piece ∈ pieces := by
  fun_induction dropComponents count pieces with
  | case1 => exact member
  | case2 => exact member
  | case3 count first others counts ih => exact List.mem_cons_of_mem first (ih member)
  | case4 count first others silent ih => exact List.mem_cons_of_mem first (ih member)

/-! ## The directory of a path -/

/-- An absolute path is not empty. -/
theorem octets_ne_nil_of_isAbsolute (absolute : path.isAbsolute = true) : path.octets ≠ [] := by
  intro empty
  rw [isAbsolute, empty] at absolute
  cases absolute

/-- A path with a file name has that name as its last component. -/
theorem getLast?_components_of_fileName {name : Bytes} (last : path.fileName = some name) :
    path.components.getLast? = some (.name name) := by
  unfold fileName at last
  split at last
  case h_1 octets atEnd =>
    rw [atEnd, Option.some.inj last]
  case h_2 => cases last

/-- An absolute path is the root, which has no directory, or its directory has all its components
but the last. -/
theorem parent_cases (absolute : path.isAbsolute = true) :
    (path.components = [.root] ∧ path.parent = none) ∨
      ∃ above last, path.parent = some above ∧ above.isAbsolute = true ∧
        path.components = above.components ++ [last] := by
  rcases List.eq_nil_or_concat' (trimBack path.pieces) with none | ⟨before, piece, shape⟩
  · refine .inl ⟨?_, ?_⟩
    · rw [components_of_isAbsolute absolute, ← componentsOf_trimBack, none]
      rfl
    · rw [parent, none]
      rfl
  · have atBack : piece ∈ (trimBack path.pieces).getLast? := by
      rw [shape, List.getLast?_concat]
      rfl
    have counts := counts_of_mem_getLast?_trimBack atBack
    have plain : ∀ other ∈ trimBack before, other.IsPlain := by
      intro other member
      refine isPlain_of_mem_pieces absolute (mem_of_mem_trimBack ?_)
      rw [shape]
      exact List.mem_append_left _ (mem_of_mem_trimBack member)
    -- The directory is spelled without the blank pieces that stood before the last component.
    refine .inr ⟨ofPieces true (trimBack before), piece.component, ?_, rfl, ?_⟩
    · rw [parent, shape, List.reverse_append, absolute]
      simp
    · rw [components_ofPieces plain, components_of_isAbsolute absolute, ← componentsOf_trimBack,
        shape, componentsOf_append, componentsOf_singleton counts, componentsOf_trimBack,
        List.cons_append]

/-- The directory of an absolute path with a file name has all components but the last. -/
theorem exists_parent (absolute : path.isAbsolute = true) {name : Bytes}
    (last : path.fileName = some name) :
    ∃ above, path.parent = some above ∧ above.isAbsolute = true ∧
      path.components = above.components ++ [.name name] := by
  have atEnd := getLast?_components_of_fileName last
  rcases parent_cases absolute with ⟨isRoot, -⟩ | ⟨above, final, isParent, above_absolute, shape⟩
  · rw [isRoot] at atEnd
    cases atEnd
  · rw [shape, List.getLast?_concat] at atEnd
    obtain rfl := Option.some.inj atEnd
    exact ⟨above, isParent, above_absolute, shape⟩

/-- Another file name replaces the last component. -/
theorem components_withFileName (absolute : path.isAbsolute = true) {old name : Bytes}
    (last : path.fileName = some old) (isName : isName name = true) {before : List Component}
    (shape : path.components = before ++ [.name old]) :
    (path.withFileName name).components = before ++ [.name name] := by
  obtain ⟨above, isParent, -, components⟩ := exists_parent absolute last
  rw [withFileName, last, isParent]
  have same : above.components = before :=
    List.append_cancel_right (components.symm.trans shape)
  rw [← same]
  exact components_join_name above isName

/-- Pieces on both sides of a slash. -/
theorem joinSlash_append {a b : List Bytes} (neA : a ≠ []) (neB : b ≠ []) :
    joinSlash (a ++ b) = joinSlash a ++ slash :: joinSlash b := by
  induction a with
  | nil => exact absurd rfl neA
  | cons piece others ih =>
    rcases others with _ | ⟨next, more⟩
    · obtain ⟨first, rest, rfl⟩ := List.exists_cons_of_ne_nil neB
      rfl
    · have rest := ih (List.cons_ne_nil next more)
      change piece ++ slash :: joinSlash (next :: more ++ b) =
        (piece ++ slash :: joinSlash (next :: more)) ++ slash :: joinSlash b
      rw [rest, List.append_assoc, List.cons_append]

/-- Where every piece counts, none is dropped from the end. -/
theorem trimBack_eq_self (counts : ∀ piece ∈ pieces, piece.counts = true) :
    trimBack pieces = pieces := by
  obtain ⟨blank, shape, silent⟩ := exists_trimBack pieces
  have none : blank = [] := by
    refine List.eq_nil_iff_forall_not_mem.mpr fun piece member => ?_
    have heard := counts piece (shape ▸ List.mem_append_right _ member)
    rw [silent piece member] at heard
    cases heard
  conv_rhs => rw [shape, none, List.append_nil]

end Path

/-! ## Paths of locations -/

namespace Location

open BundleFinish.Path

variable {names : Location} {name : Bytes}

/-- Every step of a location is a name. -/
def AreNames (names : Location) : Prop := ∀ name ∈ names, isName name = true

/-- A name behind names. -/
theorem AreNames.concat (areNames : AreNames names) (last : isName name = true) :
    AreNames (names ++ [name]) := by
  intro step member
  rcases List.mem_append.mp member with inNames | isLast
  · exact areNames step inNames
  · rw [List.mem_singleton.mp isLast]
    exact last

/-- The path of a location is absolute. -/
theorem isAbsolute_path (names : Location) : names.path.isAbsolute = true := rfl

/-- The path of a location is not empty. -/
theorem octets_path_ne_nil (names : Location) : names.path.octets ≠ [] := List.cons_ne_nil _ _

/-- The components of the path of a location. -/
theorem components_path (areNames : AreNames names) :
    names.path.components = .root :: names.map .name := by
  have plain : ∀ piece ∈ names.map fun octets => Piece.mk octets true, piece.IsPlain := by
    intro piece member
    obtain ⟨octets, inNames, rfl⟩ := List.mem_map.mp member
    have isName := areNames octets inNames
    exact ⟨by rw [saysNothing_of_isName isName]; rfl, (isName_iff.mp isName).2.2.2⟩
  have spelled : names.path = ofPieces true (names.map fun octets => Piece.mk octets true) := by
    simp [path, ofPieces, Function.comp_def]
  rw [spelled, components_ofPieces plain, componentsOf, List.filter_eq_self.mpr, List.map_map]
  · congr 1
    refine List.map_congr_left fun octets inNames => ?_
    have isName := isName_iff.mp (areNames octets inNames)
    simp [Piece.component, isName.2.1, isName.2.2.1]
  · intro piece member
    obtain ⟨octets, -, rfl⟩ := List.mem_map.mp member
    rfl

/-- A name behind the path of a location. -/
theorem path_join_name (areNames : AreNames names) (last : isName name = true) :
    names.path.join ⟨name⟩ = path (names ++ [name]) := by
  unfold Path.join
  rw [if_neg (by simp [isAbsolute_of_isName last]), if_neg (octets_path_ne_nil names)]
  rcases List.eq_nil_or_concat' names with rfl | ⟨before, step, rfl⟩
  · rfl
  · -- The path ends in a name, so the slash behind it has to be written.
    have isStep := isName_iff.mp (areNames step (by simp))
    have ends : (path (before ++ [step])).octets.getLast? ≠ some slash := by
      intro isSlash
      obtain ⟨front, shape⟩ : ∃ front, (path (before ++ [step])).octets = front ++ step := by
        rcases List.eq_nil_or_concat' before with rfl | ⟨others, other, rfl⟩
        · exact ⟨[slash], rfl⟩
        · refine ⟨slash :: (joinSlash (others ++ [other]) ++ [slash]), ?_⟩
          rw [path, joinSlash_append (by simp) (by simp)]
          simp [joinSlash]
      rw [shape, List.getLast?_append_of_ne_nil _ isStep.1] at isSlash
      exact isStep.2.2.2 (List.mem_of_getLast? isSlash)
    rw [if_neg ends, path, path, joinSlash_append (a := before ++ [step]) (by simp) (by simp)]
    rfl

/-- The pieces of the path of a location are its names. -/
theorem pieces_path (areNames : AreNames names) (below : names ≠ []) :
    names.path.pieces = names.map fun octets => ⟨octets, true⟩ := by
  unfold Path.pieces
  rw [if_pos (isAbsolute_path names)]
  change (splitSlash (joinSlash names)).map _ = _
  rw [splitSlash_joinSlash below fun name member => (isName_iff.mp (areNames name member)).2.2.2]
  refine List.map_congr_left fun octets member => ?_
  rw [saysNothing_of_isName (areNames octets member)]
  rfl

/-- The directory of a location is that without its last name. -/
theorem parent_path_concat (areNames : AreNames names) (last : isName name = true) :
    (path (names ++ [name])).parent = some names.path := by
  have counts : ∀ names : Location, ∀ piece ∈ names.map fun octets => Piece.mk octets true,
      piece.counts = true := by
    intro names piece member
    obtain ⟨octets, -, rfl⟩ := List.mem_map.mp member
    rfl
  rw [parent, pieces_path (areNames.concat last) (by simp), trimBack_eq_self (counts _),
    List.map_append, List.reverse_append, isAbsolute_path]
  change some (ofPieces true (trimBack (names.map _).reverse.reverse)) = _
  rw [List.reverse_reverse, trimBack_eq_self (counts _)]
  simp [ofPieces, path, Function.comp_def]

/-- Another file name behind the path of a location. -/
theorem path_withFileName (areNames : AreNames names) {old : Bytes} (last : isName old = true) :
    (path (names ++ [old])).withFileName name = names.path.join ⟨name⟩ := by
  have isFile : (path (names ++ [old])).fileName = some old := by
    rw [← path_join_name areNames last]
    exact fileName_join_name names.path last
  rw [withFileName, isFile, parent_path_concat areNames last]
  rfl

end Location

/-! ## Resolved paths -/

namespace Path

/-- A plain piece that counts is a step up or a name. -/
theorem Piece.IsPlain.component_cases {piece : Piece} (plain : piece.IsPlain)
    (counts : piece.counts = true) :
    piece.component = .up ∨ ∃ name, isName name = true ∧ piece.component = .name name := by
  have spoken : piece.octets ≠ [] ∧ piece.octets ≠ [dot] := by
    simpa [saysNothing] using plain.counts_eq.symm.trans counts
  unfold Piece.component
  rw [if_neg spoken.2]
  by_cases up : piece.octets = [dot, dot]
  · rw [if_pos up]
    exact .inl rfl
  · rw [if_neg up]
    exact .inr ⟨piece.octets, isName_iff.mpr ⟨spoken.1, spoken.2, up, plain.noSlash⟩, rfl⟩

/-- Cleaning steps up and names behind the root and names leaves the root and names. -/
theorem exists_foldl_cleanStep {steps : List Component}
    (known : ∀ step ∈ steps, step = .up ∨ ∃ name, isName name = true ∧ step = .name name)
    {names : Location} (areNames : names.AreNames) :
    ∃ left : Location, left.AreNames ∧
      steps.foldl cleanStep ((names.map Component.name).reverse ++ [.root]) =
        (left.map Component.name).reverse ++ [.root] := by
  -- The kept components are always the root and names: a step up takes the last name, if any.
  induction steps generalizing names with
  | nil => exact ⟨names, areNames, rfl⟩
  | cons step others ih =>
    have rest := fun other member => known other (List.mem_cons_of_mem step member)
    rw [List.foldl_cons]
    rcases known step List.mem_cons_self with rfl | ⟨name, isName, rfl⟩
    · rcases List.eq_nil_or_concat' names with rfl | ⟨before, last, rfl⟩
      · exact ih rest areNames
      · have fewer : Location.AreNames before := fun name member =>
          areNames name (List.mem_append_left _ member)
        rw [List.map_append, List.reverse_append]
        exact ih rest fewer
    · have more := ih rest (areNames.concat isName)
      rw [List.map_append, List.reverse_append] at more
      exact more

/-- Cleaning an absolute path leaves the root and names. -/
theorem exists_cleanComponents {path : Path} (absolute : path.isAbsolute = true) :
    ∃ names : Location, names.AreNames ∧
      cleanComponents path.components = .root :: names.map .name := by
  have known : ∀ step ∈ componentsOf path.pieces,
      step = .up ∨ ∃ name, isName name = true ∧ step = .name name := by
    intro step member
    obtain ⟨piece, counted, rfl⟩ := List.mem_map.mp member
    obtain ⟨inPath, counts⟩ := List.mem_filter.mp counted
    exact (isPlain_of_mem_pieces absolute inPath).component_cases counts
  have none : Location.AreNames [] := nofun
  obtain ⟨names, areNames, cleaned⟩ := exists_foldl_cleanStep known none
  refine ⟨names, areNames, ?_⟩
  rw [cleanComponents, components_of_isAbsolute absolute, List.foldl_cons]
  change (List.foldl cleanStep ([] ++ [.root]) _).reverse = _
  rw [List.map_nil, List.reverse_nil] at cleaned
  rw [cleaned, List.reverse_append, List.reverse_reverse]
  rfl

/-- Names that are put one behind the other make the path of a location. -/
theorem foldl_join_names {before names : Location} (areBefore : before.AreNames)
    (areNames : names.AreNames) :
    (names.map Component.name).foldl (fun path component => path.join ⟨component.octets⟩)
      before.path = Location.path (before ++ names) := by
  induction names generalizing before with
  | nil => rw [List.append_nil]; rfl
  | cons name others ih =>
    have isName := areNames name List.mem_cons_self
    have rest := ih (areBefore.concat isName) fun other member =>
      areNames other (List.mem_cons_of_mem name member)
    rw [List.map_cons, List.foldl_cons, Component.octets, Location.path_join_name areBefore isName,
      rest, List.append_assoc]
    rfl

/-- What cleaning an absolute path leaves is the root and names, and the cleaned path is spelled as
that of their location. -/
theorem exists_location_of_clean {path : Path} (absolute : path.isAbsolute = true) :
    ∃ names : Location, names.AreNames ∧
      cleanComponents path.components = .root :: names.map .name ∧ path.clean = names.path := by
  obtain ⟨names, areNames, cleaned⟩ := exists_cleanComponents absolute
  refine ⟨names, areNames, cleaned, ?_⟩
  rw [clean, cleaned]
  have none : Location.AreNames [] := nofun
  exact foldl_join_names none areNames

end Path

/-- The base directory is absolute, for a process that works in a directory. -/
theorem Build.Options.isAbsolute_base (options : Build.Options) {directory : Path}
    (absolute : directory.isAbsolute = true) : (options.base directory).isAbsolute = true := by
  unfold base
  split_ifs with fixed
  · exact fixed
  · rw [Path.isAbsolute_join (Path.octets_ne_nil_of_isAbsolute absolute) (by simpa using fixed)]
    exact absolute

/-- A resolved path is an absolute one, cleaned, for a process that works in a directory. -/
theorem Build.Options.exists_clean_eq_resolve (options : Build.Options) {directory : Path}
    (absolute : directory.isAbsolute = true) (path : Path) :
    ∃ whole : Path, whole.isAbsolute = true ∧ options.resolve directory path = whole.clean := by
  unfold resolve
  split_ifs with isAbsolute
  · exact ⟨path, isAbsolute, rfl⟩
  · have base := options.isAbsolute_base absolute
    refine ⟨_, ?_, rfl⟩
    rw [Path.isAbsolute_join (Path.octets_ne_nil_of_isAbsolute base) (by simpa using isAbsolute)]
    exact base

/-- A resolved path is spelled as that of a location, for a process that works in a directory. -/
theorem Build.Options.exists_location_of_resolve (options : Build.Options) {directory : Path}
    (absolute : directory.isAbsolute = true) (path : Path) :
    ∃ names : BundleFinish.Location,
      names.AreNames ∧ options.resolve directory path = names.path := by
  obtain ⟨whole, isAbsolute, resolved⟩ := options.exists_clean_eq_resolve absolute path
  obtain ⟨names, areNames, -, spelled⟩ := Path.exists_location_of_clean isAbsolute
  exact ⟨names, areNames, resolved.trans spelled⟩

end BundleFinish
