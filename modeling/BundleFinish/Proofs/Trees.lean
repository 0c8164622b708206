import BundleFinish.Files.Tree
import Mathlib.Tactic.Common

/-! # Looking up and listing in file trees

A tree is known by the node at each location. Putting a node at a location changes no other one, and
the listing of a directory has one entry for each name below it that holds a node. -/

namespace BundleFinish

/-- A location that can hold an entry is below the root, behind names alone. -/
theorem Location.isProper_iff {location : Location} :
    location.isProper = true ↔ location ≠ [] ∧ ∀ name ∈ location, Path.isName name = true := by
  simp [Location.isProper]

namespace FileTree

variable {tree : FileTree} {location other : Location} {node : Node}

/-- The file tree with some nodes. -/
def ofNodes (nodes : List (Location × Node)) : FileTree :=
  nodes.foldl (fun tree (location, node) => tree.put location node) .empty

@[simp] theorem get?_root (tree : FileTree) : tree.get? [] = some .directory := rfl

/-- Below the root, the node at a location is the one that the tree lists for it. -/
theorem get?_eq_some_iff (below : location ≠ []) :
    tree.get? location = some node ↔ (location, node) ∈ tree.entries := by
  have lookup : ∀ entries : List (Location × Node), (entries.map Prod.fst).Nodup →
      ((entries.find? fun entry => entry.1 = location).map Prod.snd = some node ↔
        (location, node) ∈ entries) := by
    intro entries distinct
    induction entries with
    | nil => simp
    | cons entry others ih =>
      obtain ⟨held, stored⟩ := entry
      rw [List.map_cons, List.nodup_cons] at distinct
      rw [List.find?_cons, List.mem_cons]
      by_cases same : held = location
      · have absent : (location, node) ∉ others := by
          intro member
          have again := List.mem_map_of_mem (f := Prod.fst) member
          exact distinct.1 (same ▸ again)
        simp [same, absent, eq_comm]
      · have differs : (location, node) ≠ (held, stored) := fun equal =>
          same (congrArg Prod.fst equal).symm
        simpa [same, differs, eq_comm] using ih distinct.2
  rw [get?, if_neg below]
  exact lookup tree.entries tree.distinct

/-- Nothing stands at a location behind anything but names. -/
theorem isProper_of_get? (below : location ≠ []) (stands : tree.get? location = some node) :
    location.isProper = true :=
  tree.proper _ ((get?_eq_some_iff below).mp stands)

/-- What a tree lists after a node was put somewhere. -/
theorem mem_entries_put (proper : location.isProper = true) {stored : Node} :
    (other, stored) ∈ (tree.put location node).entries ↔
      if other = location then stored = node else (other, stored) ∈ tree.entries := by
  unfold put
  rw [dif_pos proper]
  by_cases known : location ∈ tree.entries.map Prod.fst
  · -- The node of a known location is replaced where it stands.
    rw [dif_pos known]
    simp only [replaceIn, List.mem_map]
    by_cases same : other = location
    · rw [if_pos same]
      constructor
      · rintro ⟨entry, -, changed⟩
        split_ifs at changed with here
        · exact (congrArg Prod.snd changed).symm
        · exact absurd ((congrArg Prod.fst changed).trans same) here
      · rintro rfl
        obtain ⟨entry, member, isHere⟩ := List.mem_map.mp known
        exact ⟨entry, member, by rw [if_pos isHere, same]⟩
    · rw [if_neg same]
      constructor
      · rintro ⟨entry, member, changed⟩
        split_ifs at changed with here
        · exact absurd (congrArg Prod.fst changed).symm same
        · exact changed ▸ member
      · intro member
        exact ⟨(other, stored), member, by rw [if_neg same]⟩
  · -- A new location comes behind the others.
    rw [dif_neg known, List.mem_append, List.mem_singleton, Prod.mk.injEq]
    by_cases same : other = location
    · rw [if_pos same]
      constructor
      · rintro (old | ⟨-, new⟩)
        · exact absurd (same ▸ List.mem_map_of_mem (f := Prod.fst) old) known
        · exact new
      · exact fun new => .inr ⟨same, new⟩
    · simp [same]

/-- A node that was put somewhere stands there. -/
theorem get?_put_self (proper : location.isProper = true) :
    (tree.put location node).get? location = some node := by
  have below := (Location.isProper_iff.mp proper).1
  rw [get?_eq_some_iff below, mem_entries_put proper, if_pos rfl]

/-- Putting a node somewhere changes no other location. -/
theorem get?_put_of_ne (ne : other ≠ location) :
    (tree.put location node).get? other = tree.get? other := by
  by_cases proper : location.isProper = true
  · by_cases below : other = []
    · rw [below, get?_root, get?_root]
    · refine Option.ext fun stored => ?_
      rw [get?_eq_some_iff below, get?_eq_some_iff below, mem_entries_put proper, if_neg ne]
  · rw [put, dif_neg proper]

/-- Putting a node somewhere changes nothing about what is refused. -/
@[simp] theorem refusal_put (tree : FileTree) (location : Location) (node : Node) :
    (tree.put location node).refusal = tree.refusal := by
  unfold put
  split_ifs <;> rfl

/-- What may be opened is what is not refused. -/
theorem opened_eq {a b : FileTree} (same : a.refusal = b.refusal) : a.opened = b.opened := by
  funext access location
  rw [opened, opened, same]

/-- Where a name below a location leads, it is below the root. -/
theorem append_name_ne_nil (location : Location) (name : Bytes) : location ++ [name] ≠ [] := by
  simp

/-- A directory lists an entry exactly when the entry stands at a name below it. -/
theorem childIn_eq_some_iff {entry : Location × Node} {name : Bytes} :
    childIn location entry = some (name, node) ↔ entry = (location ++ [name], node) := by
  obtain ⟨held, stored⟩ := entry
  unfold childIn
  constructor
  · intro listed
    split at listed
    case h_1 last isLast =>
      split_ifs at listed with here
      obtain ⟨rfl, rfl⟩ := Prod.mk.inj (Option.some.inj listed)
      obtain ⟨before, shape⟩ := List.getLast?_eq_some_iff.mp isLast
      dsimp only at shape here
      rw [shape, List.dropLast_concat] at here
      rw [shape, here]
    case h_2 => cases listed
  · intro equal
    obtain ⟨rfl, rfl⟩ := Prod.mk.inj equal
    simp

/-- A directory lists the names below it that hold a node, with their nodes. -/
theorem mem_children_iff {name : Bytes} :
    (name, node) ∈ tree.children location ↔ tree.get? (location ++ [name]) = some node := by
  rw [get?_eq_some_iff (append_name_ne_nil location name), children, List.mem_filterMap]
  constructor
  · rintro ⟨entry, member, listed⟩
    exact childIn_eq_some_iff.mp listed ▸ member
  · intro member
    exact ⟨_, member, childIn_eq_some_iff.mpr rfl⟩

/-- What a directory lists are names. -/
theorem isName_of_mem_children {name : Bytes} (listed : (name, node) ∈ tree.children location) :
    Path.isName name = true := by
  have proper := isProper_of_get? (append_name_ne_nil location name) (mem_children_iff.mp listed)
  exact (Location.isProper_iff.mp proper).2 name (by simp)

/-- A directory lists every name once. -/
theorem nodup_children (tree : FileTree) (location : Location) :
    ((tree.children location).map Prod.fst).Nodup := by
  rw [List.Nodup, List.pairwise_map, children, List.pairwise_filterMap]
  refine (List.pairwise_map.mp tree.distinct).imp ?_
  rintro a b ne ⟨nameA, nodeA⟩ listedA ⟨nameB, nodeB⟩ listedB same
  rw [childIn_eq_some_iff] at listedA listedB
  dsimp only at same
  exact ne (by rw [listedA, listedB, same])

end FileTree

end BundleFinish
