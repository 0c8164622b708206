import BundleFinish.Proofs.Encoding
import Mathlib.Tactic.Common

/-! # Components of composed paths

Splitting at slashes and joining with them are those of lists, and undo each other. The components
of a path are a first one, which depends on how the path starts, and the steps that the other pieces
stand for (`components_eq`). From this follow the components of a path behind a directory
(`components_join`, `components_join_name`) and the name at its end. -/

namespace BundleFinish.Path

/-! ## Pieces between slashes -/

/-- Splitting at slashes is splitting a list at an element. -/
theorem splitSlash_eq_splitOn (octets : Bytes) : splitSlash octets = octets.splitOn slash := by
  induction octets with
  | nil => rfl
  | cons octet rest ih =>
    rw [splitSlash, List.splitOn_cons_eq_if_modifyHead, ih]
    by_cases isSlash : octet = slash
    · simp [isSlash]
    · rw [if_neg isSlash, if_neg (by simpa using isSlash)]
      rcases pieces : List.splitOn slash rest with _ | ⟨piece, others⟩
      · exact absurd pieces (List.splitOn_ne_nil slash rest)
      · rfl

/-- Joining with slashes is joining lists with a separator. -/
theorem joinSlash_eq_intercalate (pieces : List Bytes) :
    joinSlash pieces = [slash].intercalate pieces := by
  induction pieces with
  | nil => rfl
  | cons piece others ih =>
    rcases others with _ | ⟨next, others⟩
    · rw [joinSlash, List.intercalate_singleton]
    · rw [joinSlash, List.intercalate_cons_cons, ih]
      · simp
      · exact List.cons_ne_nil next others

@[simp] theorem splitSlash_ne_nil (octets : Bytes) : splitSlash octets ≠ [] := by
  rw [splitSlash_eq_splitOn]
  exact List.splitOn_ne_nil slash octets

/-- A slash separates the pieces on its two sides. -/
theorem splitSlash_append_slash (a b : Bytes) :
    splitSlash (a ++ slash :: b) = splitSlash a ++ splitSlash b := by
  simp only [splitSlash_eq_splitOn]
  exact List.splitOn_append_cons_self a b

/-- Octets without a slash are one piece. -/
theorem splitSlash_of_not_mem {octets : Bytes} (none : slash ∉ octets) :
    splitSlash octets = [octets] := by
  rw [splitSlash_eq_splitOn]
  exact List.splitOn_eq_singleton none

/-- Pieces without slashes are found again. -/
theorem splitSlash_joinSlash {pieces : List Bytes} (ne : pieces ≠ [])
    (none : ∀ piece ∈ pieces, slash ∉ piece) : splitSlash (joinSlash pieces) = pieces := by
  rw [splitSlash_eq_splitOn, joinSlash_eq_intercalate]
  exact List.splitOn_intercalate slash none ne

/-- The pieces of octets make them up. -/
theorem joinSlash_splitSlash (octets : Bytes) : joinSlash (splitSlash octets) = octets := by
  rw [joinSlash_eq_intercalate, splitSlash_eq_splitOn]
  exact List.intercalate_splitOn slash

/-- No piece has a slash. -/
theorem slash_not_mem_of_mem_splitSlash {octets piece : Bytes}
    (member : piece ∈ splitSlash octets) : slash ∉ piece := by
  induction octets generalizing piece with
  | nil =>
    rw [splitSlash, List.mem_singleton] at member
    rw [member]
    exact List.not_mem_nil
  | cons octet rest ih =>
    rw [splitSlash] at member
    by_cases isSlash : octet = slash
    · rw [if_pos isSlash, List.mem_cons] at member
      rcases member with rfl | member
      · exact List.not_mem_nil
      · exact ih member
    · rw [if_neg isSlash] at member
      rcases pieces : splitSlash rest with _ | ⟨first, others⟩
      · exact absurd pieces (splitSlash_ne_nil rest)
      · simp only [pieces, List.mem_cons] at member ih
        rcases member with rfl | member
        · rw [List.mem_cons, not_or]
          exact ⟨fun same => isSlash same.symm, ih (.inl rfl)⟩
        · exact ih (.inr member)

/-! ## Names -/

/-- What it takes to be a name. -/
theorem isName_iff {octets : Bytes} :
    isName octets = true ↔
      octets ≠ [] ∧ octets ≠ [dot] ∧ octets ≠ [dot, dot] ∧ slash ∉ octets := by
  simp [isName, saysNothing, and_assoc]

/-- A name says something. -/
theorem saysNothing_of_isName {octets : Bytes} (name : isName octets = true) :
    saysNothing octets = false := by
  rw [isName_iff] at name
  simp [saysNothing, name.1, name.2.1]

/-- A name is one piece. -/
theorem splitSlash_of_isName {octets : Bytes} (name : isName octets = true) :
    splitSlash octets = [octets] :=
  splitSlash_of_not_mem (isName_iff.mp name).2.2.2

/-- What has no slash is a relative path. -/
theorem isAbsolute_of_slash_not_mem {octets : Bytes} (noSlash : slash ∉ octets) :
    isAbsolute ⟨octets⟩ = false := by
  rcases octets with _ | ⟨first, rest⟩
  · rfl
  · have ne : first ≠ slash := fun same => noSlash (same ▸ List.mem_cons_self)
    simp [isAbsolute, ne]

/-- A name alone is a relative path. -/
theorem isAbsolute_of_isName {octets : Bytes} (name : isName octets = true) :
    isAbsolute ⟨octets⟩ = false :=
  isAbsolute_of_slash_not_mem (isName_iff.mp name).2.2.2

/-! ## Components -/

/-- The step that a piece behind the first one stands for. -/
def stepOf (octets : Bytes) : Component :=
  if octets = [dot, dot] then .up else .name octets

/-- The steps that pieces behind the first one stand for. -/
def steps (pieces : List Bytes) : List Component :=
  (pieces.filter fun octets => !saysNothing octets).map stepOf

@[simp] theorem steps_nil : steps [] = [] := rfl

@[simp] theorem steps_append (a b : List Bytes) : steps (a ++ b) = steps a ++ steps b := by
  simp [steps]

/-- A name is a step of its own. -/
theorem steps_of_isName {octets : Bytes} (name : isName octets = true) :
    steps [octets] = [.name octets] := by
  have noUp := (isName_iff.mp name).2.2.1
  simp [steps, saysNothing_of_isName name, stepOf, noUp]

/-- The component that the first piece of a path stands for: an empty one before a slash is the
root. -/
def front (first : Bytes) (others : List Bytes) : List Component :=
  if first = [] then if others = [] then [] else [.root]
  else if first = [dot] then [.here]
  else [stepOf first]

/-- A path is absolute when its first piece is empty and others follow. -/
theorem isAbsolute_iff {path : Path} {first : Bytes} {others : List Bytes}
    (split : splitSlash path.octets = first :: others) :
    path.isAbsolute = true ↔ first = [] ∧ others ≠ [] := by
  obtain ⟨octets⟩ := path
  rcases octets with _ | ⟨octet, rest⟩
  · obtain ⟨rfl, rfl⟩ := List.cons.inj split
    simp [isAbsolute]
  · dsimp only at split
    rw [splitSlash] at split
    by_cases isSlash : octet = slash
    · rw [if_pos isSlash] at split
      obtain ⟨rfl, rfl⟩ := List.cons.inj split
      simp [isAbsolute, isSlash]
    · rw [if_neg isSlash] at split
      have notEmpty : first ≠ [] := by
        rcases pieces : splitSlash rest with _ | ⟨piece, more⟩
        · exact absurd pieces (splitSlash_ne_nil rest)
        · rw [pieces] at split
          obtain ⟨rfl, -⟩ := List.cons.inj split
          exact List.cons_ne_nil octet piece
      simp [isAbsolute, isSlash, notEmpty]

/-- The components of a path, by its pieces. -/
theorem components_eq {path : Path} {first : Bytes} {others : List Bytes}
    (split : splitSlash path.octets = first :: others) :
    path.components = front first others ++ steps others := by
  have counted : ∀ pieces : List Bytes,
      ((pieces.map fun octets => Piece.mk octets !saysNothing octets).filter Piece.counts).map
        Piece.component = steps pieces := by
    intro pieces
    induction pieces with
    | nil => rfl
    | cons piece more ih =>
      by_cases silent : saysNothing piece = true
      · simpa [steps, silent] using ih
      · have notDot : piece ≠ [dot] := fun same => silent (by simp [saysNothing, same])
        simpa [steps, silent, Piece.component, stepOf, notDot] using ih
  have absolute := isAbsolute_iff split
  by_cases isAbsolute : path.isAbsolute = true
  · obtain ⟨rfl, notEmpty⟩ := absolute.mp isAbsolute
    have tail : splitSlash path.octets.tail = others := by
      rcases octets : path.octets with _ | ⟨octet, rest⟩
      · simp [Path.isAbsolute, octets] at isAbsolute
      · have isSlash : octet = slash := by simpa [Path.isAbsolute, octets] using isAbsolute
        rw [octets, splitSlash, if_pos isSlash] at split
        exact (List.cons.inj split).2
    simp [components, pieces, isAbsolute, tail, counted, front, notEmpty]
  · have shape : first = [] → others = [] := by
      intro empty
      by_contra notEmpty
      exact isAbsolute (absolute.mpr ⟨empty, notEmpty⟩)
    simp only [components, pieces, isAbsolute, split, if_false, List.filter_cons,
      Bool.false_eq_true]
    by_cases empty : first = []
    · simp [empty, shape empty, front]
    · simp [empty, counted, front, Piece.component, stepOf]
      split_ifs <;> rfl

/-- The name at the end of a path is one. -/
theorem isName_of_fileName {path : Path} {octets : Bytes} (last : path.fileName = some octets) :
    isName octets = true := by
  obtain ⟨first, others, split⟩ := List.exists_cons_of_ne_nil (splitSlash_ne_nil path.octets)
  have member : .name octets ∈ path.components := by
    unfold fileName at last
    split at last
    case h_1 name atEnd =>
      rw [Option.some.inj last] at atEnd
      exact List.mem_of_getLast? atEnd
    case h_2 => cases last
  have noSlash : ∀ piece ∈ first :: others, slash ∉ piece := fun piece inPath =>
    slash_not_mem_of_mem_splitSlash (split ▸ inPath)
  rw [components_eq split, List.mem_append] at member
  rcases member with inFront | inSteps
  · unfold front at inFront
    split_ifs at inFront with empty alone isDot
    · cases inFront
    · simp at inFront
    · simp at inFront
    · unfold stepOf at inFront
      split_ifs at inFront with isUp
      · simp at inFront
      · obtain rfl : octets = first := by simpa using inFront
        exact isName_iff.mpr ⟨empty, isDot, isUp, noSlash octets List.mem_cons_self⟩
  · obtain ⟨piece, counted, step⟩ := List.mem_map.mp inSteps
    obtain ⟨inOthers, loud⟩ := List.mem_filter.mp counted
    unfold stepOf at step
    split_ifs at step with isUp
    obtain rfl : piece = octets := by simpa using step
    have heard : piece ≠ [] ∧ piece ≠ [dot] := by simpa [saysNothing] using loud
    exact isName_iff.mpr
      ⟨heard.1, heard.2, isUp, noSlash piece (List.mem_cons_of_mem first inOthers)⟩

/-! ## Paths behind a directory -/

/-- Behind the empty path stands the path itself. -/
@[simp] theorem empty_join (path : Path) : empty.join path = path := by
  unfold join
  split_ifs
  · rfl
  · rfl
  · exact absurd rfl ‹empty.octets ≠ []›
  · exact absurd rfl ‹empty.octets ≠ []›

/-- What stands before the last slash of a directory that ends in one. -/
theorem exists_octets_before_slash {directory : Path}
    (ends : directory.octets.getLast? = some slash) :
    ∃ before, directory.octets = before ++ [slash] := by
  obtain ⟨before, shape⟩ := List.getLast?_eq_some_iff.mp ends
  exact ⟨before, shape⟩

/-- The pieces of a directory and of a path behind it: a slash at the end of the directory leaves an
empty last piece, which the path takes. -/
theorem splitSlash_join {directory path : Path} (ne : directory.octets ≠ [])
    (relative : path.isAbsolute = false) :
    ∃ before blank, (blank = [] ∨ blank = [[]]) ∧
      before ≠ [] ∧
      splitSlash directory.octets = before ++ blank ∧
      splitSlash (directory.join path).octets = before ++ splitSlash path.octets := by
  unfold join
  rw [if_neg (by simp [relative]), if_neg ne]
  by_cases ends : directory.octets.getLast? = some slash
  · obtain ⟨before, shape⟩ := exists_octets_before_slash ends
    refine ⟨splitSlash before, [[]], .inr rfl, splitSlash_ne_nil before, ?_, ?_⟩
    · rw [shape, splitSlash_append_slash]
      rfl
    · rw [if_pos ends, shape, List.append_assoc]
      exact splitSlash_append_slash before path.octets
  · refine ⟨splitSlash directory.octets, [], .inl rfl, splitSlash_ne_nil _, ?_, ?_⟩
    · rw [List.append_nil]
    · rw [if_neg ends]
      exact splitSlash_append_slash directory.octets path.octets

/-- A path behind a directory starts where the directory does. -/
theorem isAbsolute_join {directory path : Path} (ne : directory.octets ≠ [])
    (relative : path.isAbsolute = false) :
    (directory.join path).isAbsolute = directory.isAbsolute := by
  obtain ⟨first, others, spelled⟩ := List.exists_cons_of_ne_nil ne
  unfold join
  rw [if_neg (by simp [relative]), if_neg ne]
  split_ifs
  · rw [isAbsolute, isAbsolute, spelled, List.cons_append, List.head?_cons, List.head?_cons]
  · rw [isAbsolute, isAbsolute, spelled, List.cons_append, List.head?_cons, List.head?_cons]

/-- One more piece behind a directory: the octets and the pieces before it, and whether the path is
absolute, do not depend on it. -/
theorem exists_lead_of_join (directory : Path) :
    ∃ lead pieces absolute, ∀ piece : Bytes, slash ∉ piece →
      (directory.join ⟨piece⟩).octets = lead ++ piece ∧
        splitSlash (directory.join ⟨piece⟩).octets = pieces ++ [piece] ∧
        (directory.join ⟨piece⟩).isAbsolute = absolute := by
  by_cases spelled : directory.octets = []
  · refine ⟨[], [], false, fun piece noSlash => ?_⟩
    have relative := isAbsolute_of_slash_not_mem noSlash
    have alone : directory.join ⟨piece⟩ = ⟨piece⟩ := by
      rw [join, if_neg (by simp [relative]), if_pos spelled]
    rw [alone]
    exact ⟨rfl, splitSlash_of_not_mem noSlash, relative⟩
  · obtain ⟨before, ended⟩ : ∃ before, ∀ piece : Bytes, slash ∉ piece →
        (directory.join ⟨piece⟩).octets = before ++ slash :: piece := by
      by_cases ends : directory.octets.getLast? = some slash
      · obtain ⟨before, shape⟩ := exists_octets_before_slash ends
        refine ⟨before, fun piece noSlash => ?_⟩
        rw [join, if_neg (by simp [isAbsolute_of_slash_not_mem noSlash]), if_neg spelled,
          if_pos ends, shape, List.append_assoc]
        rfl
      · refine ⟨directory.octets, fun piece noSlash => ?_⟩
        rw [join, if_neg (by simp [isAbsolute_of_slash_not_mem noSlash]), if_neg spelled,
          if_neg ends]
    refine ⟨before ++ [slash], splitSlash before, directory.isAbsolute, fun piece noSlash => ?_⟩
    rw [isAbsolute_join spelled (isAbsolute_of_slash_not_mem noSlash), ended piece noSlash,
      splitSlash_append_slash, splitSlash_of_not_mem noSlash, List.append_assoc]
    exact ⟨rfl, rfl, rfl⟩

/-- What comes behind the first piece matters to the front only by being there. -/
theorem front_congr (first : Bytes) {a b : List Bytes} (present : a = [] ↔ b = []) :
    front first a = front first b := by
  unfold front
  split_ifs <;> simp_all

/-- Behind a directory, the pieces of a relative path are steps. -/
theorem components_join {directory path : Path} (ne : directory.octets ≠ [])
    (relative : path.isAbsolute = false) :
    (directory.join path).components = directory.components ++ steps (splitSlash path.octets) := by
  obtain ⟨before, blank, isBlank, notEmpty, own, joined⟩ := splitSlash_join ne relative
  obtain ⟨first, others, rfl⟩ := List.exists_cons_of_ne_nil notEmpty
  rw [List.cons_append] at own joined
  rw [components_eq own, components_eq joined]
  have silent : steps blank = [] := by rcases isBlank with rfl | rfl <;> rfl
  have sameFront : front first (others ++ blank) =
      front first (others ++ splitSlash path.octets) := by
    by_cases empty : first = []
    · refine front_congr first ⟨fun none => ?_, fun none => ?_⟩
      · -- An empty first piece with nothing behind it is the empty path.
        rw [none, empty] at own
        have joinedBack := congrArg joinSlash own
        rw [joinSlash_eq_intercalate, splitSlash_eq_splitOn, List.intercalate_splitOn] at joinedBack
        exact absurd joinedBack ne
      · exact absurd (List.append_eq_nil_iff.mp none).2 (splitSlash_ne_nil path.octets)
    · simp [front, empty]
  rw [sameFront, steps_append, steps_append, silent, List.append_nil, List.append_assoc]

/-- Behind a directory, a name is one more component. -/
theorem components_join_name (directory : Path) {octets : Bytes} (name : isName octets = true) :
    (directory.join ⟨octets⟩).components = directory.components ++ [.name octets] := by
  have relative := isAbsolute_of_isName name
  by_cases empty : directory.octets = []
  · obtain rfl : directory = Path.empty := congrArg Path.mk empty
    have split : splitSlash (⟨octets⟩ : Path).octets = [octets] := splitSlash_of_isName name
    have nothing : splitSlash Path.empty.octets = [[]] := rfl
    rw [isName_iff] at name
    rw [empty_join, components_eq split, components_eq nothing]
    simp [front, name, stepOf, steps, saysNothing]
  · rw [components_join empty relative, splitSlash_of_isName name, steps_of_isName name]

/-- The name behind a directory is the file name. -/
theorem fileName_join_name (directory : Path) {octets : Bytes} (name : isName octets = true) :
    (directory.join ⟨octets⟩).fileName = some octets := by
  rw [fileName, components_join_name directory name, List.getLast?_append]
  rfl

/-- A name alone is its own file name. -/
theorem fileName_of_isName {octets : Bytes} (name : isName octets = true) :
    fileName ⟨octets⟩ = some octets := by
  have alone := fileName_join_name empty name
  rwa [empty_join] at alone

/-- Different names behind a directory give different paths. -/
theorem join_name_injective (directory : Path) {a b : Bytes} (nameA : isName a = true)
    (nameB : isName b = true) (same : directory.join ⟨a⟩ = directory.join ⟨b⟩) : a = b := by
  have names := congrArg fileName same
  rw [fileName_join_name directory nameA, fileName_join_name directory nameB] at names
  exact Option.some.inj names

end BundleFinish.Path
