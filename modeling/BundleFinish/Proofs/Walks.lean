import BundleFinish.Proofs.Paths
import BundleFinish.Proofs.Trees

/-! # Where paths lead

Following a path looks at the kind of the nodes on the way and at the targets of links, never at the
content of a file. So a path leads to the same place in trees that differ in contents alone
(`FileTree.Alike`). Behind a directory, the name of an entry that is no link leads to that entry
(`FileTree.find_join_name`). -/

namespace BundleFinish

/-- A node without the content of a file. -/
def Node.outline : Node → Node
  | .file _ _ => .file [] none
  | .directory => .directory
  | .link target => .link target

namespace FileTree

/-- A place without the content of a file. -/
def Place.outline : Place → Place
  | .found location node => .found location node.outline
  | .vacant location => .vacant location

/-- Two trees that differ in the contents of files alone. -/
def Alike (a b : FileTree) : Prop :=
  ∀ location, (a.get? location).map Node.outline = (b.get? location).map Node.outline

namespace Alike

variable {a b c : FileTree}

theorem refl (a : FileTree) : Alike a a := fun _ => rfl

theorem symm (alike : Alike a b) : Alike b a := fun location => (alike location).symm

theorem trans (first : Alike a b) (second : Alike b c) : Alike a c :=
  fun location => (first location).trans (second location)

/-- Alike trees have nodes of one kind at each location. -/
theorem cases (alike : Alike a b) (location : Location) :
    (a.get? location = none ∧ b.get? location = none) ∨
      (a.get? location = some .directory ∧ b.get? location = some .directory) ∨
      (∃ target, a.get? location = some (.link target) ∧ b.get? location = some (.link target)) ∨
      ∃ contentA programA contentB programB,
        a.get? location = some (.file contentA programA) ∧
          b.get? location = some (.file contentB programB) := by
  have same := alike location
  rcases nodeA : a.get? location with _ | ⟨contentA, programA⟩ | _ | targetA <;>
    rcases nodeB : b.get? location with _ | ⟨contentB, programB⟩ | _ | targetB <;>
    simp [nodeA, nodeB, Node.outline] at same ⊢
  exact same.symm

/-- A new content of a file leaves a tree alike. -/
theorem put_file {location : Location} {content : Bytes} {program : Option Program}
    (file : a.get? location = some (.file content program)) (new : Bytes) :
    Alike a (a.put location (.file new program)) := by
  intro other
  by_cases here : other = location
  · have below : location ≠ [] := by
      rintro rfl
      cases file
    rw [here, file, get?_put_self (isProper_of_get? below file)]
    rfl
  · rw [get?_put_of_ne here]

end Alike

/-! ## One step of a walk -/

section Step

variable {tree : FileTree} {followLast : Bool}
  {follow : Location → List Bytes → Except IoError Place} {here : Location} {piece : Bytes}
  {rest : List Bytes}

/-- A walk over a piece that does not fail starts in a directory. -/
theorem directory_of_walkWith_cons {place : Place}
    (found : tree.walkWith followLast follow here (piece :: rest) = .ok place) :
    tree.get? here = some .directory := by
  rw [walkWith] at found
  split at found
  case h_1 => cases found
  case h_2 inside => exact inside
  case h_3 => cases found

/-- A piece that says nothing is passed over. -/
theorem walkWith_cons_silent (inside : tree.get? here = some .directory)
    (silent : Path.saysNothing piece = true) :
    tree.walkWith followLast follow here (piece :: rest) =
      tree.walkWith followLast follow here rest := by
  rw [walkWith, inside, if_pos silent]

/-- Two dots lead to the directory above. -/
theorem walkWith_cons_up (inside : tree.get? here = some .directory)
    (spoken : ¬Path.saysNothing piece = true) (up : piece = [Path.dot, Path.dot]) :
    tree.walkWith followLast follow here (piece :: rest) =
      tree.walkWith followLast follow here.dropLast rest := by
  rw [walkWith, inside, if_neg spoken, if_pos up]

/-- A piece that names an entry leads to what stands there. -/
theorem walkWith_cons_entry (inside : tree.get? here = some .directory)
    (spoken : ¬Path.saysNothing piece = true) (along : piece ≠ [Path.dot, Path.dot]) :
    tree.walkWith followLast follow here (piece :: rest) =
      if maxNameLength < piece.length then .error .nameTooLong
      else
        match tree.get? (here ++ [piece]) with
        | none => if rest = [] then .ok (.vacant (here ++ [piece])) else .error .notFound
        | some (.link target) =>
          if rest = [] ∧ !followLast then .ok (.found (here ++ [piece]) (.link target))
          else follow (if target.isAbsolute then [] else here)
            (Path.splitSlash target.octets ++ rest)
        | some _ => tree.walkWith followLast follow (here ++ [piece]) rest := by
  rw [walkWith, inside, if_neg spoken]
  exact if_neg along

end Step

/-! ## Walks in alike trees -/

/-- One level of a walk is the same in alike trees, if what follows its links is. -/
theorem walkWith_alike {a b : FileTree} (alike : Alike a b) (followLast : Bool)
    {follow follow' : Location → List Bytes → Except IoError Place}
    (same : ∀ here pieces, (follow here pieces).map Place.outline =
      (follow' here pieces).map Place.outline) (here : Location) (pieces : List Bytes) :
    (a.walkWith followLast follow here pieces).map Place.outline =
      (b.walkWith followLast follow' here pieces).map Place.outline := by
  induction pieces generalizing here with
  | nil =>
    rcases alike.cases here with ⟨nodeA, nodeB⟩ | ⟨nodeA, nodeB⟩ | ⟨target, nodeA, nodeB⟩ |
      ⟨contentA, programA, contentB, programB, nodeA, nodeB⟩ <;>
      simp [walkWith, nodeA, nodeB, Except.map, Place.outline, Node.outline]
  | cons piece rest ih =>
    rcases alike.cases here with ⟨nodeA, nodeB⟩ | ⟨nodeA, nodeB⟩ | ⟨target, nodeA, nodeB⟩ |
      ⟨contentA, programA, contentB, programB, nodeA, nodeB⟩
    · rw [walkWith, walkWith, nodeA, nodeB]
    · by_cases silent : Path.saysNothing piece = true
      · rw [walkWith_cons_silent nodeA silent, walkWith_cons_silent nodeB silent]
        exact ih here
      by_cases up : piece = [Path.dot, Path.dot]
      · rw [walkWith_cons_up nodeA silent up, walkWith_cons_up nodeB silent up]
        exact ih here.dropLast
      rw [walkWith_cons_entry nodeA silent up, walkWith_cons_entry nodeB silent up]
      by_cases long : maxNameLength < piece.length
      · rw [if_pos long, if_pos long]
      rw [if_neg long, if_neg long]
      rcases alike.cases (here ++ [piece]) with ⟨entryA, entryB⟩ | ⟨entryA, entryB⟩ |
        ⟨target, entryA, entryB⟩ | ⟨contentA, programA, contentB, programB, entryA, entryB⟩
      · rw [entryA, entryB]
      · rw [entryA, entryB]
        exact ih (here ++ [piece])
      · rw [entryA, entryB]
        by_cases last : rest = [] ∧ !followLast
        · simp only [if_pos last]
        · simp only [if_neg last]
          exact same _ _
      · rw [entryA, entryB]
        exact ih (here ++ [piece])
    · rw [walkWith, walkWith, nodeA, nodeB]
    · rw [walkWith, walkWith, nodeA, nodeB]

/-- A walk is the same in alike trees. -/
theorem walk_alike {a b : FileTree} (alike : Alike a b) (followLast : Bool) (links : Nat)
    (here : Location) (pieces : List Bytes) :
    (a.walk followLast links here pieces).map Place.outline =
      (b.walk followLast links here pieces).map Place.outline := by
  -- Each link starts a walk with one link less, which the induction hypothesis answers for.
  induction links generalizing here pieces with
  | zero => exact walkWith_alike alike followLast (fun _ _ => rfl) here pieces
  | succ links ih => exact walkWith_alike alike followLast ih here pieces

/-- A path leads to the same place in alike trees. -/
theorem locate_alike {a b : FileTree} (alike : Alike a b) (followLast : Bool)
    (directory : Location) (path : Path) :
    (a.locate followLast directory path).map Place.outline =
      (b.locate followLast directory path).map Place.outline := by
  unfold locate
  split_ifs
  · rfl
  · rfl
  · rfl
  · exact walk_alike alike followLast maxLinks [] _
  · exact walk_alike alike followLast maxLinks directory _

/-! ## Places that are found -/

/-- What one level of a walk finds stands where it says, if that holds for what follows links. -/
theorem get?_of_walkWith {tree : FileTree} {followLast : Bool}
    {follow : Location → List Bytes → Except IoError Place}
    (stands : ∀ {here pieces location node}, follow here pieces = .ok (.found location node) →
      tree.get? location = some node)
    {here : Location} {pieces : List Bytes} {location : Location} {node : Node}
    (found : tree.walkWith followLast follow here pieces = .ok (.found location node)) :
    tree.get? location = some node := by
  induction pieces generalizing here with
  | nil =>
    rw [walkWith] at found
    split at found
    case h_1 other stood =>
      cases found
      exact stood
    case h_2 => cases found
  | cons piece rest ih =>
    have inside := directory_of_walkWith_cons found
    by_cases silent : Path.saysNothing piece = true
    · rw [walkWith_cons_silent inside silent] at found
      exact ih found
    by_cases up : piece = [Path.dot, Path.dot]
    · rw [walkWith_cons_up inside silent up] at found
      exact ih found
    rw [walkWith_cons_entry inside silent up] at found
    by_cases long : maxNameLength < piece.length
    · rw [if_pos long] at found
      cases found
    rw [if_neg long] at found
    rcases entry : tree.get? (here ++ [piece]) with _ | ⟨content, program⟩ | _ | target
    · rw [entry] at found
      dsimp only at found
      split at found <;> cases found
    · rw [entry] at found
      exact ih found
    · rw [entry] at found
      exact ih found
    · rw [entry] at found
      by_cases last : rest = [] ∧ !followLast
      · simp only [if_pos last] at found
        cases found
        exact entry
      · simp only [if_neg last] at found
        exact stands found

/-- What a walk finds stands where it says. -/
theorem get?_of_walk {tree : FileTree} {followLast : Bool} {links : Nat} {here : Location}
    {pieces : List Bytes} {location : Location} {node : Node}
    (found : tree.walk followLast links here pieces = .ok (.found location node)) :
    tree.get? location = some node := by
  induction links generalizing here pieces location node with
  | zero => exact get?_of_walkWith (fun none => by cases none) found
  | succ links ih => exact get?_of_walkWith ih found

/-! ## Names behind a directory -/

/-- What a directory has under a name, links not followed. -/
def entryIn (tree : FileTree) (location : Location) (name : Bytes) : Except IoError Place :=
  if maxNameLength < name.length then .error .nameTooLong
  else
    match tree.get? (location ++ [name]) with
    | none => .ok (.vacant (location ++ [name]))
    | some node => .ok (.found (location ++ [name]) node)

/-- Where one level of a walk ends in a directory, a name behind it leads to the entry under that
name, if that holds for what follows links. -/
theorem walkWith_append_name {tree : FileTree}
    {follow : Location → List Bytes → Except IoError Place} {location : Location} {name : Bytes}
    {blank : List Bytes} (isName : Path.isName name = true) (blanks : blank = [] ∨ blank = [[]])
    (noLink : ∀ target, tree.get? (location ++ [name]) ≠ some (.link target))
    (behind : ∀ here pieces, follow here (pieces ++ blank) = .ok (.found location .directory) →
      follow here (pieces ++ [name]) = tree.entryIn location name)
    {here : Location} {pieces : List Bytes}
    (found : tree.walkWith true follow here (pieces ++ blank) =
      .ok (.found location .directory)) :
    tree.walkWith true follow here (pieces ++ [name]) = tree.entryIn location name := by
  -- With no piece left, the walk has arrived, and the name is the next step.
  induction pieces generalizing here with
  | nil =>
    have inside : here = location ∧ tree.get? here = some .directory := by
      rcases node : tree.get? here with _ | ⟨content, program⟩ | _ | target <;>
        rcases blanks with rfl | rfl <;> simp [walkWith, node, Path.saysNothing] at found
      all_goals exact ⟨found, rfl⟩
    obtain ⟨rfl, inside⟩ := inside
    have spoken : ¬Path.saysNothing name = true := by
      rw [Path.saysNothing_of_isName isName]
      exact Bool.false_ne_true
    have along : name ≠ [Path.dot, Path.dot] := (Path.isName_iff.mp isName).2.2.1
    rw [List.nil_append, walkWith_cons_entry inside spoken along, entryIn]
    rcases entry : tree.get? (here ++ [name]) with _ | ⟨content, program⟩ | _ | target
    · rw [if_pos rfl]
    · rw [walkWith, entry]
    · rw [walkWith, entry]
    · exact absurd entry (noLink target)
  | cons piece rest ih =>
    rw [List.cons_append] at found ⊢
    have inside := directory_of_walkWith_cons found
    by_cases silent : Path.saysNothing piece = true
    · rw [walkWith_cons_silent inside silent] at found ⊢
      exact ih found
    by_cases up : piece = [Path.dot, Path.dot]
    · rw [walkWith_cons_up inside silent up] at found ⊢
      exact ih found
    rw [walkWith_cons_entry inside silent up] at found ⊢
    by_cases long : maxNameLength < piece.length
    · rw [if_pos long] at found
      cases found
    rw [if_neg long] at found ⊢
    rcases entry : tree.get? (here ++ [piece]) with _ | ⟨content, program⟩ | _ | target
    · rw [entry] at found
      dsimp only at found
      split at found <;> cases found
    · rw [entry] at found
      exact ih found
    · rw [entry] at found
      exact ih found
    · rw [entry] at found
      simp only [Bool.not_true, Bool.false_eq_true, and_false, if_false] at found ⊢
      rw [← List.append_assoc] at found ⊢
      exact behind _ _ found

/-- Where a walk ends in a directory, a name behind it leads to the entry under that name, if that
is no link. -/
theorem walk_append_name {tree : FileTree} {links : Nat} {location : Location} {name : Bytes}
    {blank : List Bytes} (isName : Path.isName name = true) (blanks : blank = [] ∨ blank = [[]])
    (noLink : ∀ target, tree.get? (location ++ [name]) ≠ some (.link target))
    {here : Location} {pieces : List Bytes}
    (found : tree.walk true links here (pieces ++ blank) = .ok (.found location .directory)) :
    tree.walk true links here (pieces ++ [name]) = tree.entryIn location name := by
  induction links generalizing here pieces with
  | zero => exact walkWith_append_name isName blanks noLink (fun _ _ none => by cases none) found
  | succ links ih =>
    exact walkWith_append_name isName blanks noLink (fun _ _ further => ih further) found

/-- Where one level of a walk ends behind a name, the pieces before the name lead to a directory,
and the name to its entry unless that is a link; if that holds for what follows links. -/
theorem exists_of_walkWith_append_name {tree : FileTree} {location : Location} {name : Bytes}
    {node : Node} {follow : Location → List Bytes → Except IoError Place}
    (isName : Path.isName name = true)
    (behind : ∀ here pieces, follow here (pieces ++ [name]) = .ok (.found location node) →
      ∃ place, follow here (pieces ++ [[Path.dot]]) = .ok (.found place .directory) ∧
        ((∀ target, tree.get? (place ++ [name]) ≠ some (.link target)) →
          location = place ++ [name]))
    {here : Location} {pieces : List Bytes}
    (found : tree.walkWith true follow here (pieces ++ [name]) = .ok (.found location node)) :
    ∃ place, tree.walkWith true follow here (pieces ++ [[Path.dot]]) =
        .ok (.found place .directory) ∧
      ((∀ target, tree.get? (place ++ [name]) ≠ some (.link target)) →
        location = place ++ [name]) := by
  induction pieces generalizing here with
  | nil =>
    rw [List.nil_append] at found
    have inside := directory_of_walkWith_cons found
    have spoken : ¬Path.saysNothing name = true := by
      rw [Path.saysNothing_of_isName isName]
      exact Bool.false_ne_true
    have along : name ≠ [Path.dot, Path.dot] := (Path.isName_iff.mp isName).2.2.1
    refine ⟨here, ?_, fun noLink => ?_⟩
    · rw [List.nil_append, walkWith_cons_silent inside (by decide), walkWith, inside]
    · rw [walkWith_cons_entry inside spoken along] at found
      by_cases long : maxNameLength < name.length
      · rw [if_pos long] at found
        cases found
      rw [if_neg long] at found
      rcases entry : tree.get? (here ++ [name]) with _ | ⟨content, program⟩ | _ | target
      · simp [entry] at found
      · simp only [entry, walkWith] at found
        cases found
        rfl
      · simp only [entry, walkWith] at found
        cases found
        rfl
      · exact absurd entry (noLink target)
  | cons piece rest ih =>
    rw [List.cons_append] at found ⊢
    have inside := directory_of_walkWith_cons found
    by_cases silent : Path.saysNothing piece = true
    · rw [walkWith_cons_silent inside silent] at found
      simp only [walkWith_cons_silent inside silent]
      exact ih found
    by_cases up : piece = [Path.dot, Path.dot]
    · rw [walkWith_cons_up inside silent up] at found
      simp only [walkWith_cons_up inside silent up]
      exact ih found
    rw [walkWith_cons_entry inside silent up] at found
    simp only [walkWith_cons_entry inside silent up]
    by_cases long : maxNameLength < piece.length
    · rw [if_pos long] at found
      cases found
    simp only [if_neg long] at found ⊢
    rcases entry : tree.get? (here ++ [piece]) with _ | ⟨content, program⟩ | _ | target
    · simp [entry] at found
    · simp only [entry] at found ⊢
      exact ih found
    · simp only [entry] at found ⊢
      exact ih found
    · simp only [entry, Bool.not_true, Bool.false_eq_true, and_false, if_false] at found ⊢
      rw [← List.append_assoc] at found
      simp only [← List.append_assoc]
      exact behind _ _ found

/-- Where a walk ends behind a name, the pieces before the name lead to a directory, and the name to
its entry unless that is a link. -/
theorem exists_of_walk_append_name {tree : FileTree} {links : Nat} {location : Location}
    {name : Bytes} {node : Node} (isName : Path.isName name = true) {here : Location} {pieces : List Bytes}
    (found : tree.walk true links here (pieces ++ [name]) = .ok (.found location node)) :
    ∃ place, tree.walk true links here (pieces ++ [[Path.dot]]) = .ok (.found place .directory) ∧
      ((∀ target, tree.get? (place ++ [name]) ≠ some (.link target)) →
        location = place ++ [name]) := by
  induction links generalizing here pieces with
  | zero => exact exists_of_walkWith_append_name isName (fun _ _ none => by cases none) found
  | succ links ih => exact exists_of_walkWith_append_name isName (fun _ _ => ih) found

/-- A path that leads to a node leads to its place. -/
theorem locate_of_find {tree : FileTree} {directory location : Location} {path : Path}
    {node : Node} (found : tree.find directory path = .ok (location, node)) :
    tree.locate true directory path = .ok (.found location node) := by
  unfold find at found
  rcases place : tree.locate true directory path with cause | ⟨_, _⟩ | _ <;>
    rw [place] at found <;> cases found
  rfl

/-- What it takes for a path to lead to a place. -/
theorem locate_eq_ok_iff {tree : FileTree} {start : Location} {followLast : Bool} {path : Path} {place : Place} :
    tree.locate followLast start path = .ok place ↔
      0 ∉ path.octets ∧ path.octets ≠ [] ∧ path.octets.length ≤ maxPathLength ∧
        tree.walk followLast maxLinks (if path.isAbsolute then [] else start)
          (Path.splitSlash path.octets) = .ok place := by
  unfold locate
  by_cases zero : 0 ∈ path.octets
  · simp [zero]
  by_cases none : path.octets = []
  · simp [none]
  by_cases long : maxPathLength < path.octets.length
  · simp [zero, none, long, Nat.not_le.mpr long]
  · simp [zero, none, long, Nat.not_lt.mp long]

/-- A place where something stands is found. -/
theorem find_of_locate {tree : FileTree} {start location : Location} {path : Path} {node : Node}
    (place : tree.locate true start path = .ok (.found location node)) :
    tree.find start path = .ok (location, node) := by
  rw [find, place]
  rfl

/-- The node that a path leads to stands where it says. -/
theorem get?_of_find {tree : FileTree} {directory location : Location} {path : Path} {node : Node}
    (found : tree.find directory path = .ok (location, node)) :
    tree.get? location = some node := by
  have place := locate_of_find found
  unfold locate at place
  split_ifs at place
  · exact get?_of_walk place
  · exact get?_of_walk place

/-- What is listed are the entries of a directory that may be opened. -/
theorem list_eq_ok_iff {tree : FileTree} {start : Location} {path : Path}
    {entries : List (Bytes × Node)} :
    tree.list start path = .ok entries ↔
      ∃ place, tree.find start path = .ok (place, .directory) ∧
        tree.opened .reading place = .ok () ∧ tree.children place = entries := by
  unfold list
  rcases tree.find start path with cause | ⟨place, ⟨content, program⟩ | _ | target⟩
  · simp [bind, Except.bind]
  · simp [bind, Except.bind]
  · rcases opened : tree.opened .reading place with cause | _ <;>
      simp [bind, Except.bind, opened]
  · simp [bind, Except.bind]

/-- Behind a directory, the name of an entry that is no link leads to that entry. -/
theorem locate_join_name {tree : FileTree} {start location : Location} {directory : Path}
    {name : Bytes} (isName : Path.isName name = true)
    (found : tree.find start directory = .ok (location, .directory))
    (noLink : ∀ target, tree.get? (location ++ [name]) ≠ some (.link target)) {place : Place}
    (leads : tree.locate true start (directory.join ⟨name⟩) = .ok place) :
    tree.entryIn location name = .ok place := by
  have toDirectory := locate_of_find found
  unfold locate at toDirectory leads
  by_cases spelled : directory.octets = []
  · simp [spelled] at toDirectory
  have relative : (⟨name⟩ : Path).isAbsolute = false := Path.isAbsolute_of_isName isName
  obtain ⟨before, blank, blanks, -, split, splitJoin⟩ := Path.splitSlash_join spelled relative
  rw [Path.splitSlash_of_isName isName] at splitJoin
  rw [split] at toDirectory
  rw [splitJoin, Path.isAbsolute_join spelled relative] at leads
  split_ifs at toDirectory leads with a b c d e f g
  all_goals
    rw [← leads]
    exact (walk_append_name isName blanks noLink toDirectory).symm

/-- What is found behind a directory under the name of an entry that is no link is that entry. -/
theorem find_join_name {tree : FileTree} {start location there : Location} {directory : Path}
    {name : Bytes} {node : Node} (isName : Path.isName name = true)
    (found : tree.find start directory = .ok (location, .directory))
    (noLink : ∀ target, tree.get? (location ++ [name]) ≠ some (.link target))
    (leads : tree.find start (directory.join ⟨name⟩) = .ok (there, node)) :
    there = location ++ [name] ∧ tree.get? (location ++ [name]) = some node := by
  have entry := locate_join_name isName found noLink (locate_of_find leads)
  unfold entryIn at entry
  split_ifs at entry
  rcases stands : tree.get? (location ++ [name]) with _ | stored
  · rw [stands] at entry
    cases entry
  · rw [stands] at entry
    cases entry
    exact ⟨rfl, rfl⟩

/-- A path leads to the same location in alike trees. -/
theorem find_alike {a b : FileTree} (alike : Alike a b) {directory location : Location}
    {path : Path} {node : Node} (found : a.find directory path = .ok (location, node)) :
    ∃ other, b.find directory path = .ok (location, other) ∧ b.get? location = some other := by
  have same := locate_alike alike true directory path
  rw [locate_of_find found] at same
  rcases place : b.locate true directory path with cause | ⟨there, other⟩ | there
  · rw [place] at same
    cases same
  · rw [place] at same
    obtain rfl : location = there := (Place.found.inj (Except.ok.inj same)).1
    have found' : b.find directory path = .ok (location, other) := by
      rw [find, place]
      rfl
    exact ⟨other, found', get?_of_find found'⟩
  · rw [place] at same
    cases same

/-- A path leads to the same directory in alike trees. -/
theorem find_directory_alike {a b : FileTree} (alike : Alike a b) {directory location : Location}
    {path : Path} (found : a.find directory path = .ok (location, .directory)) :
    b.find directory path = .ok (location, .directory) := by
  obtain ⟨other, found', stands⟩ := find_alike alike found
  have same := alike location
  rw [get?_of_find found, stands] at same
  rcases other with ⟨content, program⟩ | _ | target
  · cases same
  · exact found'
  · cases same

/-- Regular files stand at the same locations in alike trees. -/
theorem Alike.exists_file_iff {a b : FileTree} (alike : Alike a b) (location : Location) :
    (∃ content program, a.get? location = some (.file content program)) ↔
      ∃ content program, b.get? location = some (.file content program) := by
  rcases alike.cases location with ⟨nodeA, nodeB⟩ | ⟨nodeA, nodeB⟩ | ⟨target, nodeA, nodeB⟩ |
    ⟨contentA, programA, contentB, programB, nodeA, nodeB⟩ <;>
    simp [nodeA, nodeB]

/-- Alike trees hold something under the same paths. -/
theorem exists?_alike {a b : FileTree} (alike : Alike a b) (directory : Location) (path : Path) :
    a.exists? directory path = b.exists? directory path := by
  have onlyIf : ∀ {a b : FileTree}, Alike a b → a.exists? directory path = true →
      b.exists? directory path = true := by
    intro a b alike there
    unfold exists? at there ⊢
    rcases found : a.find directory path with cause | ⟨location, node⟩
    · rw [found] at there
      cases there
    · obtain ⟨other, found', -⟩ := find_alike alike found
      rw [found']
      rfl
  exact Bool.eq_iff_iff.mpr ⟨onlyIf alike, onlyIf alike.symm⟩

end FileTree

end BundleFinish
