import BundleFinish.Proofs.Edits
import BundleFinish.Proofs.Outcome

/-! # Where edits fail

An edit fails where its file cannot be read as text or cannot be opened for writing, whatever the
change that it makes (`FileTree.apply_eq_error_iff`). Edits turn texts into texts and leave in place
what is refused, so a file that cannot be edited before a run of edits cannot be edited behind it
either, for the same cause (`FileTree.editable_eq_error_applyAll`). -/

namespace BundleFinish

namespace Node

/-- The text of a node; only a file with well-formed content has one. -/
def text : Node → Except IoError String
  | .file content _ =>
    match Utf8.decode? content with
    | some text => .ok text
    | none => .error .notText
  | .directory | .link _ => .error .isDirectory

/-- A node with a text is a file. -/
theorem text_eq_ok_iff {node : Node} {characters : String} :
    node.text = .ok characters ↔
      ∃ content program, node = .file content program ∧
        Utf8.decode? content = some characters := by
  rcases node with ⟨content, program⟩ | _ | target
  · rcases decoded : Utf8.decode? content with _ | held
    · simp [text, decoded]
    · simp [text, decoded]
  · simp [text]
  · simp [text]

/-- A node has a text behind changes where it had one before. -/
@[simp] theorem text_rewritten (changes : List (String → String)) (node : Node) :
    (node.rewritten changes).text =
      node.text.map fun characters =>
        changes.foldl (fun text change => change text) characters := by
  rcases node with ⟨content, program⟩ | _ | target
  · rcases decoded : Utf8.decode? content with _ | held
    · simp [rewritten, text, decoded, Except.map]
    · simp [rewritten_text changes decoded, text, decoded, Except.map]
  · rfl
  · rfl

end Node

namespace FileTree

variable {tree after : FileTree} {directory location : Location} {path : Path} {edit : Edit}
  {edits : List Edit} {cause : IoError}

/-! ## Files that can be edited -/

/-- The file that a path leads to, with its location, if it can be read as text and written back. -/
def editable (tree : FileTree) (directory : Location) (path : Path) :
    Except IoError (Location × Node) := do
  let (location, node) ← tree.find directory path
  tree.opened .reading location
  let _ ← node.text
  tree.opened .writing location
  return (location, node)

/-- What can be edited has a text and may be opened. -/
theorem editable_eq_ok_iff {node : Node} :
    tree.editable directory path = .ok (location, node) ↔
      tree.find directory path = .ok (location, node) ∧ (∃ text, node.text = .ok text) ∧
        tree.opened .reading location = .ok () ∧ tree.opened .writing location = .ok () := by
  constructor
  · intro done
    obtain ⟨⟨there, held⟩, found, done⟩ := exists_of_bind_eq_ok done
    obtain ⟨_, reading, done⟩ := exists_of_bind_eq_ok done
    obtain ⟨text, isText, done⟩ := exists_of_bind_eq_ok done
    obtain ⟨_, writing, done⟩ := exists_of_bind_eq_ok done
    cases done
    exact ⟨found, ⟨text, isText⟩, reading, writing⟩
  · rintro ⟨found, ⟨text, isText⟩, reading, writing⟩
    rw [editable, found]
    simp [bind, Except.bind, pure, Except.pure, reading, isText, writing]

/-- An edit fails where its file cannot be edited, and puts the changed node there otherwise. -/
theorem apply_eq (tree : FileTree) (directory : Location) (edit : Edit) :
    tree.apply directory edit =
      (tree.editable directory edit.path).map fun (location, node) =>
        tree.put location (node.rewritten [edit.change]) := by
  unfold FileTree.apply readText FileTree.read editable
  rcases found : tree.find directory edit.path with cause | ⟨location, node⟩
  · rfl
  rcases reading : tree.opened .reading location with cause | _
  · simp [bind, Except.bind, Except.map, reading]
  rcases node with ⟨content, program⟩ | _ | target
  · rcases decoded : Utf8.decode? content with _ | text
    · simp [bind, Except.bind, Except.map, reading, Node.text, decoded]
    · rcases writing : tree.opened .writing location with cause | _ <;>
      simp [bind, Except.bind, pure, Except.pure, Except.map, reading, writing, Node.text, decoded,
        write_of_find found, Node.rewritten]
  · simp [bind, Except.bind, Except.map, reading, Node.text]
  · simp [bind, Except.bind, Except.map, reading, Node.text]

/-- An edit fails where its file cannot be edited, for the same cause. -/
theorem apply_eq_error_iff :
    tree.apply directory edit = .error cause ↔
      tree.editable directory edit.path = .error cause := by
  rw [apply_eq]
  rcases tree.editable directory edit.path with other | found
  · simp [Except.map]
  · simp [Except.map]

/-- A path that leads nowhere leads nowhere in alike trees, for the same cause. -/
theorem find_error_alike {a b : FileTree} (alike : Alike a b)
    (failed : a.find directory path = .error cause) : b.find directory path = .error cause := by
  have same := locate_alike alike true directory path
  unfold find at failed ⊢
  rcases placeA : a.locate true directory path with other | ⟨_, _⟩ | _ <;>
    rcases placeB : b.locate true directory path with another | ⟨_, _⟩ | _ <;>
    rw [placeA] at failed same <;> rw [placeB] at same <;>
    simp_all [bind, Except.bind, Except.map, Place.outline]

/-- Behind a run of edits a path leads to the rewritten node. -/
theorem find_applyAll (done : tree.applyAll directory edits = .ok after) (path : Path) :
    after.find directory path =
      (tree.find directory path).map fun (location, node) =>
        (location, node.rewritten (tree.changesAt directory location edits)) := by
  have alike := alike_applyAll done
  rcases found : tree.find directory path with cause | ⟨location, node⟩
  · exact find_error_alike alike found
  · obtain ⟨other, found', stood⟩ := find_alike alike found
    rw [get?_applyAll done, get?_of_find found, Option.map_some] at stood
    rw [found', ← Option.some.inj stood]
    rfl

/-- Behind a run of edits the same files can be edited, and they have been rewritten; what cannot be
edited has the same cause. -/
theorem editable_applyAll (done : tree.applyAll directory edits = .ok after) (path : Path) :
    after.editable directory path =
      (tree.editable directory path).map fun (location, node) =>
        (location, node.rewritten (tree.changesAt directory location edits)) := by
  unfold editable
  rw [find_applyAll done, opened_eq (refusal_applyAll done)]
  rcases tree.find directory path with cause | ⟨location, node⟩
  · rfl
  rcases reading : tree.opened .reading location with cause | _
  · simp [bind, Except.bind, Except.map, reading]
  rcases held : node.text with cause | text
  · simp [bind, Except.bind, Except.map, reading, held]
  · rcases writing : tree.opened .writing location with cause | _ <;>
      simp [bind, Except.bind, pure, Except.pure, Except.map, reading, held, writing]

/-- What cannot be edited behind a run of edits could not be edited before, for the same cause. -/
theorem editable_eq_error_applyAll (done : tree.applyAll directory edits = .ok after) :
    after.editable directory path = .error cause ↔ tree.editable directory path = .error cause := by
  rw [editable_applyAll done]
  rcases tree.editable directory path with other | found
  · simp [Except.map]
  · simp [Except.map]

/-- What cannot be edited behind an edit could not be edited before, for the same cause. -/
theorem editable_eq_error_apply (done : tree.apply directory edit = .ok after) :
    after.editable directory path = .error cause ↔ tree.editable directory path = .error cause := by
  have single : tree.applyAll directory [edit] = .ok after := by
    rw [applyAll_cons, done]
    rfl
  exact editable_eq_error_applyAll single

/-- The edits of a run that does not fail are made to files that could be edited at its beginning. -/
theorem exists_editable_of_mem_applyAll (done : tree.applyAll directory edits = .ok after)
    (member : edit ∈ edits) :
    ∃ location content program text,
      tree.editable directory edit.path = .ok (location, .file content program) ∧
        Utf8.decode? content = some text := by
  induction edits generalizing tree with
  | nil => cases member
  | cons first others ih =>
    obtain ⟨between, head, rest⟩ := exists_of_applyAll_cons done
    -- What could not be edited at the beginning could not be edited when its turn comes.
    have ends : ∃ found, tree.editable directory edit.path = .ok found := by
      rcases stuck : tree.editable directory edit.path with cause | found
      · rcases List.mem_cons.mp member with rfl | later
        · rw [apply_eq_error_iff.mpr stuck] at head
          cases head
        · obtain ⟨_, _, _, _, found, -⟩ := ih rest later
          rw [(editable_eq_error_apply head).mpr stuck] at found
          cases found
      · exact ⟨found, rfl⟩
    obtain ⟨⟨location, node⟩, found⟩ := ends
    obtain ⟨-, ⟨text, held⟩, -⟩ := editable_eq_ok_iff.mp found
    obtain ⟨content, program, rfl, isText⟩ := Node.text_eq_ok_iff.mp held
    exact ⟨location, content, program, text, found, isText⟩

end FileTree

end BundleFinish
