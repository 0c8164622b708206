import BundleFinish.Files.IoError
import BundleFinish.Files.Path
import BundleFinish.Files.Program

/-! # File trees

A file tree gives each location, a list of names counted from the root, at most one node. A path
is followed from a directory, through symbolic links; reading, writing and listing are defined on
the place it leads to, which the system may refuse to open. The root is always a directory.

Three things that file systems have are left out. There are no hard links: what is written at one
location is read at no other. Every directory can be searched: a path leads nowhere because
something is missing or of the wrong kind, never because a directory on its way refuses to be
searched. And a file that was opened is written to the end. -/

namespace BundleFinish

/-- The names that lead from the root to a node. -/
abbrev Location := List Bytes

/-- The plain absolute path of a location. -/
def Location.path (location : Location) : Path :=
  ⟨Path.slash :: Path.joinSlash location⟩

/-- What stands at a location. -/
inductive Node where
  /-- A regular file; some files are programs. -/
  | file (content : Bytes) (program : Option Program)
  | directory
  /-- A symbolic link. -/
  | link (target : Path)

/-- Whether a location can hold an entry: it is below the root, and each of its steps is a name. -/
def Location.isProper (location : Location) : Bool :=
  !location.isEmpty && location.all Path.isName

/-- What a file or a directory is opened for. -/
inductive Access where
  | reading
  | writing
  deriving DecidableEq, Repr

/-- Nodes by location, in the order in which they were made. A location holds one node, and the way
to it is made of names. -/
structure FileTree where
  entries : List (Location × Node)
  /-- Why the system refuses to open what stands at a location, or is to be made there. -/
  refusal : Access → Location → Option IoError
  proper : ∀ entry ∈ entries, entry.1.isProper = true
  distinct : (entries.map Prod.fst).Nodup

namespace FileTree

/-- The tree with nothing but the root, where nothing is refused. -/
def empty : FileTree := ⟨[], fun _ _ => none, nofun, .nil⟩

/-- The node at a location. -/
def get? (tree : FileTree) (location : Location) : Option Node :=
  if location = [] then some .directory
  else (tree.entries.find? fun entry => entry.1 = location).map Prod.snd

/-- Replace the node of one location in a list of entries. -/
def replaceIn (location : Location) (node : Node) (entries : List (Location × Node)) :
    List (Location × Node) :=
  entries.map fun entry => if entry.1 = location then (location, node) else entry

/-- Replacing a node keeps the locations. -/
@[simp] theorem map_fst_replaceIn (location : Location) (node : Node)
    (entries : List (Location × Node)) :
    (replaceIn location node entries).map Prod.fst = entries.map Prod.fst := by
  unfold replaceIn
  rw [List.map_map]
  refine List.map_congr_left fun entry _ => ?_
  by_cases same : entry.1 = location
  · simp [same]
  · simp [same]

/-- Replace the node at a location, or add one; nothing can be put at the root. -/
def put (tree : FileTree) (location : Location) (node : Node) : FileTree :=
  if proper : location.isProper = true then
    if known : location ∈ tree.entries.map Prod.fst then
      { entries := replaceIn location node tree.entries
        refusal := tree.refusal
        proper := by
          intro entry member
          have held := List.mem_map_of_mem (f := Prod.fst) member
          rw [map_fst_replaceIn] at held
          obtain ⟨before, was, same⟩ := List.mem_map.mp held
          rw [← same]
          exact tree.proper before was
        distinct := by
          rw [map_fst_replaceIn]
          exact tree.distinct }
    else
      { entries := tree.entries ++ [(location, node)]
        refusal := tree.refusal
        proper := by
          intro entry member
          rcases List.mem_append.mp member with old | new
          · exact tree.proper entry old
          · rw [List.mem_singleton.mp new]
            exact proper
        distinct := by
          rw [List.map_append, List.nodup_append]
          refine ⟨tree.distinct, List.pairwise_singleton _ _, ?_⟩
          intro held old other new same
          rw [List.map_singleton, List.mem_singleton] at new
          rw [same, new] at old
          exact known old }
  else tree

/-- Remove a location and everything below it. -/
def remove (tree : FileTree) (location : Location) : FileTree :=
  { entries := tree.entries.filter fun entry => !location.isPrefixOf entry.1
    refusal := tree.refusal
    proper := fun entry member => tree.proper entry (List.mem_filter.mp member).1
    distinct := tree.distinct.sublist (List.filter_sublist.map Prod.fst) }

/-- An entry as a directory lists it, by its name, if it stands directly in that directory. -/
def childIn (location : Location) (entry : Location × Node) : Option (Bytes × Node) :=
  match entry.1.getLast? with
  | some name => if entry.1.dropLast = location then some (name, entry.2) else none
  | none => none

/-- The entries of a directory, by name. -/
def children (tree : FileTree) (location : Location) : List (Bytes × Node) :=
  tree.entries.filterMap (childIn location)

/-- Where a path leads. -/
inductive Place where
  | found (location : Location) (node : Node)
  /-- Nothing stands there, but its directory exists. -/
  | vacant (location : Location)

/-- The longest name that a directory takes. -/
def maxNameLength : Nat := 255

/-- The longest path that is followed. -/
def maxPathLength : Nat := 4095

/-- How many symbolic links are followed for one path. -/
def maxLinks : Nat := 40

/-- Follow pieces of a path from the location `here`. A link at the very end is followed only where
`followLast` says so; `follow` continues behind a link. No directory refuses to be searched. -/
def walkWith (tree : FileTree) (followLast : Bool)
    (follow : Location → List Bytes → Except IoError Place) :
    Location → List Bytes → Except IoError Place
  | here, [] =>
    match tree.get? here with
    | some node => .ok (.found here node)
    | none => .error .notFound
  | here, piece :: rest =>
    match tree.get? here with
    | none => .error .notFound
    | some .directory =>
      if Path.saysNothing piece then walkWith tree followLast follow here rest
      else if piece = [Path.dot, Path.dot] then
        walkWith tree followLast follow here.dropLast rest
      else if maxNameLength < piece.length then .error .nameTooLong
      else
        match tree.get? (here ++ [piece]) with
        -- Only the last name may be missing; even a slash behind it asks for something that is there.
        | none => if rest = [] then .ok (.vacant (here ++ [piece])) else .error .notFound
        | some (.link target) =>
          if rest = [] ∧ !followLast then .ok (.found (here ++ [piece]) (.link target))
          else follow (if target.isAbsolute then [] else here)
            (Path.splitSlash target.octets ++ rest)
        | some _ => walkWith tree followLast follow (here ++ [piece]) rest
    | some _ => .error .notDirectory

/-- Follow pieces of a path through at most `links` symbolic links. -/
def walk (tree : FileTree) (followLast : Bool) :
    Nat → Location → List Bytes → Except IoError Place
  | 0 => tree.walkWith followLast fun _ _ => .error .tooManyLinks
  | links + 1 => tree.walkWith followLast (walk tree followLast links)

/-- Where a path leads, a relative one from `directory`. -/
def locate (tree : FileTree) (followLast : Bool) (directory : Location) (path : Path) :
    Except IoError Place :=
  if path.octets.contains 0 then .error .zeroOctet
  else if path.octets = [] then .error .notFound
  else if maxPathLength < path.octets.length then .error .nameTooLong
  else
    tree.walk followLast maxLinks (if path.isAbsolute then [] else directory)
      (Path.splitSlash path.octets)

/-- The node that a path leads to, through links, with its location. -/
def find (tree : FileTree) (directory : Location) (path : Path) :
    Except IoError (Location × Node) := do
  match ← tree.locate true directory path with
  | .found location node => .ok (location, node)
  | .vacant _ => .error .notFound

/-- Whether a path leads to something; what cannot be followed leads nowhere. The check itself never
fails for lack of permission, as every directory can be searched. -/
def exists? (tree : FileTree) (directory : Location) (path : Path) : Bool :=
  (tree.find directory path).toBool

/-- Whether a path leads to a regular file. -/
def isFile (tree : FileTree) (directory : Location) (path : Path) : Bool :=
  match tree.find directory path with
  | .ok (_, .file ..) => true
  | _ => false

/-- Ask the system to open what stands at a location, or is to be made there. -/
def opened (tree : FileTree) (access : Access) (location : Location) : Except IoError Unit :=
  match tree.refusal access location with
  | some cause => .error cause
  | none => .ok ()

/-- The content of a file. -/
def read (tree : FileTree) (directory : Location) (path : Path) : Except IoError Bytes := do
  let (location, node) ← tree.find directory path
  tree.opened .reading location
  match node with
  | .file content _ => .ok content
  | .directory | .link _ => .error .isDirectory

/-- The content of a file as text. -/
def readText (tree : FileTree) (directory : Location) (path : Path) : Except IoError String := do
  match Utf8.decode? (← tree.read directory path) with
  | some text => .ok text
  | none => .error .notText

/-- Give a file a new content; a missing file is made. This fails only before the file is open, while
its content is still whole: no disk fills up. -/
def write (tree : FileTree) (directory : Location) (path : Path) (content : Bytes) :
    Except IoError FileTree := do
  match ← tree.locate true directory path with
  | .found location (.file _ program) =>
    tree.opened .writing location
    .ok (tree.put location (.file content program))
  | .found _ _ => .error .isDirectory
  | .vacant location =>
    tree.opened .writing location
    .ok (tree.put location (.file content none))

/-- The names in a directory with their nodes, links not followed. -/
def list (tree : FileTree) (directory : Location) (path : Path) :
    Except IoError (List (Bytes × Node)) := do
  match ← tree.find directory path with
  | (location, .directory) =>
    tree.opened .reading location
    .ok (tree.children location)
  | (_, _) => .error .notDirectory

/-- Make a directory and those above it, the outermost first. -/
def makeDirectories (tree : FileTree) (directory : Location) (path : Path) :
    Except IoError FileTree :=
  path.ancestors.reverse.foldlM
    (fun tree path =>
      if path.octets = [] then .ok tree
      else do
        match ← tree.locate true directory path with
        | .found _ .directory => .ok tree
        | .found _ _ => .error (.other "File exists (os error 17)")
        | .vacant location =>
          tree.opened .writing location
          .ok (tree.put location .directory))
    tree

/-- Write a file and make the directories it stands in; where that fails, what was made before
stays. -/
def writeDeep (tree : FileTree) (directory : Location) (path : Path) (content : Bytes) :
    FileTree :=
  let tree :=
    match path.parent with
    | some above => (tree.makeDirectories directory above).toOption.getD tree
    | none => tree
  (tree.write directory path content).toOption.getD tree

end FileTree

end BundleFinish
