import BundleFinish.Proofs.Encoding
import BundleFinish.Proofs.Walks

/-! # Edits of text files

An edit reads a file as text and writes a change of that text back. It changes the node where its
path leads and nothing else, so edits never change where a path leads. A run of edits without a
failure rewrites each file by the changes that lead to it, in their order
(`FileTree.get?_applyAll`). -/

namespace BundleFinish

/-- A change of the text of the file that a path leads to. -/
structure Edit where
  path : Path
  change : String → String

namespace Node

/-- A node after changes of its text, one after the other; what is no text file stays. -/
def rewritten (changes : List (String → String)) : Node → Node
  | .file content program =>
    match Utf8.decode? content with
    | some text =>
      .file (Utf8.encode (changes.foldl (fun text change => change text) text)) program
    | none => .file content program
  | .directory => .directory
  | .link target => .link target

/-- A text file after changes. -/
theorem rewritten_text (changes : List (String → String)) {content : Bytes} {text : String}
    (isText : Utf8.decode? content = some text) (program : Option Program) :
    rewritten changes (.file content program) =
      .file (Utf8.encode (changes.foldl (fun text change => change text) text)) program := by
  rw [rewritten, isText]

/-- Without a change, a node stays. -/
@[simp] theorem rewritten_nil : rewritten [] = id := by
  funext node
  rcases node with ⟨content, program⟩ | _ | target
  · rcases decoded : Utf8.decode? content with _ | text
    · rw [rewritten, decoded, id]
    · rw [rewritten_text [] decoded, List.foldl_nil, ← Utf8.decode?_eq_some_iff.mp decoded, id]
  · rfl
  · rfl

/-- Changes are made one after the other. -/
theorem rewritten_append (first others : List (String → String)) (node : Node) :
    rewritten (first ++ others) node = rewritten others (rewritten first node) := by
  rcases node with ⟨content, program⟩ | _ | target
  · rcases decoded : Utf8.decode? content with _ | text
    · rw [rewritten, rewritten, decoded, rewritten, decoded]
    · rw [rewritten_text _ decoded, rewritten_text _ decoded,
        rewritten_text _ (Utf8.decode?_encode _), List.foldl_append]
  · rfl
  · rfl

/-- What is a text file after changes was one before. -/
theorem exists_of_rewritten_eq {changes : List (String → String)} {node : Node} {content : Bytes}
    {program : Option Program} {text : String}
    (same : rewritten changes node = .file content program)
    (isText : Utf8.decode? content = some text) :
    ∃ before start, node = .file before program ∧ Utf8.decode? before = some start := by
  rcases node with ⟨before, runs⟩ | _ | target
  · rcases decoded : Utf8.decode? before with _ | start
    · rw [rewritten, decoded] at same
      cases same
      rw [decoded] at isText
      cases isText
    · rw [rewritten_text changes decoded] at same
      cases same
      exact ⟨before, start, rfl, decoded⟩
  · cases same
  · cases same

end Node

namespace FileTree

variable {tree after : FileTree} {directory location : Location} {path : Path} {edit : Edit}
  {edits : List Edit}

/-! ## Where a path leads -/

/-- Whether a path leads to a location. -/
def leadsTo (tree : FileTree) (directory location : Location) (path : Path) : Bool :=
  match tree.find directory path with
  | .ok (there, _) => there == location
  | .error _ => false

/-- A path leads to a location where a node is found there. -/
theorem leadsTo_iff :
    tree.leadsTo directory location path = true ↔
      ∃ node, tree.find directory path = .ok (location, node) := by
  unfold leadsTo
  rcases found : tree.find directory path with cause | ⟨there, node⟩
  · simp
  · simp

/-- A path leads to the same locations in alike trees. -/
theorem leadsTo_alike {a b : FileTree} (alike : Alike a b) :
    a.leadsTo directory location path = b.leadsTo directory location path := by
  rw [Bool.eq_iff_iff, leadsTo_iff, leadsTo_iff]
  constructor
  · rintro ⟨node, found⟩
    obtain ⟨other, found', -⟩ := find_alike alike found
    exact ⟨other, found'⟩
  · rintro ⟨node, found⟩
    obtain ⟨other, found', -⟩ := find_alike alike.symm found
    exact ⟨other, found'⟩

/-! ## One edit -/

/-- Read a file as text, and write the changed text back. -/
def apply (tree : FileTree) (directory : Location) (edit : Edit) : Except IoError FileTree := do
  let text ← tree.readText directory edit.path
  tree.write directory edit.path (Utf8.encode (edit.change text))

/-- A file that a path leads to is read as the text that it is, if it may be opened. -/
theorem readText_of_find {content : Bytes} {program : Option Program} {text : String}
    (found : tree.find directory path = .ok (location, .file content program))
    (opened : tree.opened .reading location = .ok ())
    (isText : Utf8.decode? content = some text) : tree.readText directory path = .ok text := by
  unfold readText FileTree.read
  rw [found]
  simp [bind, Except.bind, opened, isText]

/-- What is read as text is the content of a file that may be opened. -/
theorem exists_of_readText {text : String} (read : tree.readText directory path = .ok text) :
    ∃ location content program, tree.find directory path = .ok (location, .file content program) ∧
      tree.opened .reading location = .ok () ∧ Utf8.decode? content = some text := by
  unfold readText FileTree.read at read
  rcases found : tree.find directory path with cause | ⟨there, node⟩
  · rw [found] at read
    cases read
  rw [found] at read
  rcases opened : tree.opened .reading there with cause | _
  · simp [bind, Except.bind, opened] at read
  rcases node with ⟨content, program⟩ | _ | target
  · rcases decoded : Utf8.decode? content with _ | characters
    · simp [bind, Except.bind, opened, decoded] at read
    · simp only [bind, Except.bind, opened, decoded, Except.ok.injEq] at read
      exact ⟨there, content, program, rfl, opened, by rw [decoded, read]⟩
  · simp [bind, Except.bind, opened] at read
  · simp [bind, Except.bind, opened] at read

/-- A file that a path leads to is opened, and its content replaced. -/
theorem write_of_find {content new : Bytes} {program : Option Program}
    (found : tree.find directory path = .ok (location, .file content program)) :
    tree.write directory path new = tree.opened .writing location >>= fun _ =>
      .ok (tree.put location (.file new program)) := by
  rw [write, locate_of_find found]
  rfl

/-- An edit that does not fail puts the changed text where its path leads. -/
theorem exists_of_apply (done : tree.apply directory edit = .ok after) :
    ∃ location content program text,
      tree.find directory edit.path = .ok (location, .file content program) ∧
      Utf8.decode? content = some text ∧
      after = tree.put location (.file (Utf8.encode (edit.change text)) program) := by
  unfold FileTree.apply at done
  rcases read : tree.readText directory edit.path with cause | text
  · rw [read] at done
    cases done
  · obtain ⟨location, content, program, found, -, isText⟩ := exists_of_readText read
    rw [read] at done
    change tree.write directory edit.path (Utf8.encode (edit.change text)) = .ok after at done
    rw [write_of_find found] at done
    rcases opened : tree.opened .writing location with cause | _
    · rw [opened] at done
      cases done
    · rw [opened] at done
      cases done
      exact ⟨location, content, program, text, found, isText, rfl⟩

/-- An edit leaves a tree alike. -/
theorem alike_apply (done : tree.apply directory edit = .ok after) : Alike tree after := by
  obtain ⟨location, content, program, text, found, -, rfl⟩ := exists_of_apply done
  exact Alike.put_file (get?_of_find found) _

/-- An edit changes nothing about what is refused. -/
theorem refusal_apply (done : tree.apply directory edit = .ok after) :
    after.refusal = tree.refusal := by
  obtain ⟨location, content, program, text, -, -, rfl⟩ := exists_of_apply done
  exact refusal_put tree location _

/-- The changes of the edits that lead to a location. -/
def changesAt (tree : FileTree) (directory location : Location) (edits : List Edit) :
    List (String → String) :=
  (edits.filter fun edit => tree.leadsTo directory location edit.path).map Edit.change

@[simp] theorem changesAt_nil : tree.changesAt directory location [] = [] := rfl

/-- The change of an edit that leads to a location. -/
theorem changesAt_of_leadsTo (leads : tree.leadsTo directory location edit.path = true) :
    tree.changesAt directory location [edit] = [edit.change] := by
  simp [changesAt, leads]

/-- An edit that leads elsewhere has no change for a location. -/
theorem changesAt_of_not_leadsTo (astray : ¬tree.leadsTo directory location edit.path = true) :
    tree.changesAt directory location [edit] = [] := by
  simp [changesAt, astray]

/-- The changes of edits, one after the other. -/
theorem changesAt_append (edits others : List Edit) :
    tree.changesAt directory location (edits ++ others) =
      tree.changesAt directory location edits ++ tree.changesAt directory location others := by
  rw [changesAt, List.filter_append, List.map_append]
  rfl

/-- The changes of edits are the same in alike trees. -/
theorem changesAt_alike {a b : FileTree} (alike : Alike a b) (edits : List Edit) :
    a.changesAt directory location edits = b.changesAt directory location edits := by
  unfold changesAt
  congr 2
  funext edit
  exact leadsTo_alike alike

/-- An edit rewrites the node where it leads. -/
theorem get?_apply (done : tree.apply directory edit = .ok after) (location : Location) :
    after.get? location =
      (tree.get? location).map (Node.rewritten (tree.changesAt directory location [edit])) := by
  obtain ⟨there, content, program, text, found, isText, rfl⟩ := exists_of_apply done
  have stands := get?_of_find found
  by_cases here : location = there
  · have leads : tree.leadsTo directory location edit.path = true :=
      leadsTo_iff.mpr ⟨_, here ▸ found⟩
    -- A file is never at the root, where nothing can be put.
    have below : there ≠ [] := by
      rintro rfl
      cases stands
    rw [here, get?_put_self (isProper_of_get? below stands), stands, Option.map_some,
      changesAt_of_leadsTo (here ▸ leads), Node.rewritten_text _ isText]
    rfl
  · have astray : ¬tree.leadsTo directory location edit.path = true := by
      rw [leadsTo_iff]
      rintro ⟨node, found'⟩
      rw [found] at found'
      cases found'
      exact here rfl
    rw [get?_put_of_ne here, changesAt_of_not_leadsTo astray, Node.rewritten_nil, Option.map_id, id]

/-! ## Runs of edits -/

/-- Edit in order, up to the first edit that fails. -/
def applyAll (tree : FileTree) (directory : Location) (edits : List Edit) :
    Except IoError FileTree :=
  edits.foldlM (fun tree edit => tree.apply directory edit) tree

/-- The first edit, and then the others. -/
theorem applyAll_cons :
    tree.applyAll directory (edit :: edits) =
      tree.apply directory edit >>= fun tree => tree.applyAll directory edits := by
  rw [applyAll, List.foldlM_cons]
  rfl

/-- A run of edits that does not fail goes on from what its first edit leaves. -/
theorem exists_of_applyAll_cons (done : tree.applyAll directory (edit :: edits) = .ok after) :
    ∃ between, tree.apply directory edit = .ok between ∧
      between.applyAll directory edits = .ok after := by
  rw [applyAll_cons] at done
  rcases first : tree.apply directory edit with cause | between
  · rw [first] at done
    cases done
  · rw [first] at done
    exact ⟨between, rfl, done⟩

/-- Two runs of edits, one after the other. -/
theorem applyAll_append {between : FileTree} {others : List Edit}
    (first : tree.applyAll directory edits = .ok between)
    (second : between.applyAll directory others = .ok after) :
    tree.applyAll directory (edits ++ others) = .ok after := by
  rw [applyAll, List.foldlM_append]
  change tree.applyAll directory edits >>= _ = _
  rw [first]
  exact second

/-- A run of edits leaves a tree alike. -/
theorem alike_applyAll (done : tree.applyAll directory edits = .ok after) : Alike tree after := by
  induction edits generalizing tree with
  | nil =>
    cases done
    exact .refl _
  | cons edit others ih =>
    obtain ⟨between, first, rest⟩ := exists_of_applyAll_cons done
    exact (alike_apply first).trans (ih rest)

/-- A run of edits changes nothing about what is refused. -/
theorem refusal_applyAll (done : tree.applyAll directory edits = .ok after) :
    after.refusal = tree.refusal := by
  induction edits generalizing tree with
  | nil =>
    cases done
    rfl
  | cons edit others ih =>
    obtain ⟨between, first, rest⟩ := exists_of_applyAll_cons done
    exact (ih rest).trans (refusal_apply first)

/-- A run of edits rewrites each node by the changes that lead to it. -/
theorem get?_applyAll (done : tree.applyAll directory edits = .ok after) (location : Location) :
    after.get? location =
      (tree.get? location).map (Node.rewritten (tree.changesAt directory location edits)) := by
  -- The later edits lead where they led before the first one, since it leaves the tree alike.
  induction edits generalizing tree with
  | nil =>
    cases done
    rw [changesAt_nil, Node.rewritten_nil, Option.map_id, id]
  | cons edit others ih =>
    obtain ⟨between, first, rest⟩ := exists_of_applyAll_cons done
    rw [ih rest, get?_apply first, Option.map_map, ← changesAt_alike (alike_apply first) others,
      ← List.singleton_append (l := others), changesAt_append]
    congr 1
    funext node
    exact (Node.rewritten_append _ _ node).symm

/-- What is read behind a run of edits is the text from before with the changes that lead there. -/
theorem exists_readText_applyAll {text : String} (done : tree.applyAll directory edits = .ok after)
    (read : tree.readText directory path = .ok text) :
    ∃ location, tree.leadsTo directory location path = true ∧
      after.readText directory path =
        .ok ((tree.changesAt directory location edits).foldl
          (fun text change => change text) text) := by
  obtain ⟨location, content, program, found, opened, isText⟩ := exists_of_readText read
  obtain ⟨node, found', stood⟩ := find_alike (alike_applyAll done) found
  rw [get?_applyAll done, get?_of_find found, Option.map_some, Node.rewritten_text _ isText]
    at stood
  cases stood
  have opened' : after.opened .reading location = .ok () := by
    rwa [opened_eq (refusal_applyAll done)]
  exact ⟨location, leadsTo_iff.mpr ⟨_, found⟩,
    readText_of_find found' opened' (Utf8.decode?_encode _)⟩

/-- The edits of a run that does not fail lead to text files. -/
theorem exists_of_mem_applyAll (done : tree.applyAll directory edits = .ok after)
    (member : edit ∈ edits) :
    ∃ location content program text,
      tree.find directory edit.path = .ok (location, .file content program) ∧
      Utf8.decode? content = some text := by
  induction edits generalizing tree with
  | nil => cases member
  | cons first others ih =>
    obtain ⟨between, head, rest⟩ := exists_of_applyAll_cons done
    rcases List.mem_cons.mp member with rfl | later
    · obtain ⟨location, content, program, text, found, isText, -⟩ := exists_of_apply head
      exact ⟨location, content, program, text, found, isText⟩
    · obtain ⟨location, content, program, text, found, isText⟩ := ih rest later
      obtain ⟨before, found', stood⟩ := find_alike (alike_apply head).symm found
      have stands := get?_of_find found
      rw [get?_apply head, stood, Option.map_some] at stands
      obtain ⟨old, start, rfl, wasText⟩ :=
        Node.exists_of_rewritten_eq (Option.some.inj stands) isText
      exact ⟨location, old, program, start, found', wasText⟩

end FileTree

end BundleFinish
