import BundleFinish.Text.Utf8

/-! # Lexical paths

A path is its octets. It is read as components: the root, a leading `.`, `..`, and names. Empty
pieces and any other `.` say nothing, so two spellings of one component list are the same path
(`Path.same`), while the octets themselves are kept for display. All operations are lexical: they
never look at a file. -/

namespace BundleFinish

/-- A path as it is spelled. -/
structure Path where
  octets : Bytes
  deriving DecidableEq, Repr, Inhabited

namespace Path

/-- The octet of `/`. -/
def slash : UInt8 := 0x2f

/-- The octet of `.`. -/
def dot : UInt8 := 0x2e

/-- One step of a path. -/
inductive Component where
  /-- The root directory, at the front of an absolute path. -/
  | root
  /-- A `.` at the front of a relative path. -/
  | here
  /-- A `..`. -/
  | up
  /-- The name of an entry. -/
  | name (octets : Bytes)
  deriving DecidableEq, Repr

/-- The path spelled by a text. -/
def ofString (text : String) : Path := ⟨Utf8.encode text⟩

/-- The path as text, with the replacement character for what is not text. -/
def display (path : Path) : String := Utf8.decodeLossy path.octets

@[simp] theorem display_ofString (text : String) : (ofString text).display = text := by
  simp [display, ofString]

/-- The empty path. -/
def empty : Path := ⟨[]⟩

/-- The root directory. -/
def root : Path := ⟨[slash]⟩

/-- Whether the path starts at the root directory. -/
def isAbsolute (path : Path) : Bool := path.octets.head? == some slash

/-- Split octets at every slash; there is always at least one piece. -/
def splitSlash : Bytes → List Bytes
  | [] => [[]]
  | octet :: rest =>
    if octet = slash then [] :: splitSlash rest
    else
      match splitSlash rest with
      | piece :: others => (octet :: piece) :: others
      | [] => [[octet]]

/-- Put pieces together with slashes between them. -/
def joinSlash : List Bytes → Bytes
  | [] => []
  | [piece] => piece
  | piece :: others => piece ++ slash :: joinSlash others

/-- A piece of a path between slashes, and whether it is a component. -/
structure Piece where
  octets : Bytes
  counts : Bool
  deriving DecidableEq, Repr

/-- Pieces that say nothing: empty ones and `.`. -/
def saysNothing (octets : Bytes) : Bool := octets == [] || octets == [dot]

/-- Whether octets are the name of an entry: a name says something, is not `..`, and has no slash. -/
def isName (octets : Bytes) : Bool :=
  !saysNothing octets && octets != [dot, dot] && !octets.contains slash

/-- Pieces of a path after its root: a `.` counts only at the front of a relative path. -/
def pieces (path : Path) : List Piece :=
  if path.isAbsolute then
    (splitSlash path.octets.tail).map fun octets => ⟨octets, !saysNothing octets⟩
  else
    match splitSlash path.octets with
    | [] => []
    | first :: others =>
      ⟨first, first != []⟩ :: others.map fun octets => ⟨octets, !saysNothing octets⟩

/-- What a counting piece means. -/
def Piece.component (piece : Piece) : Component :=
  if piece.octets = [dot] then .here
  else if piece.octets = [dot, dot] then .up
  else .name piece.octets

/-- The components of a path, from the root to the last name. -/
def components (path : Path) : List Component :=
  let steps := (path.pieces.filter Piece.counts).map Piece.component
  if path.isAbsolute then .root :: steps else steps

/-- Two spellings of one path. -/
def same (p q : Path) : Bool := p.components == q.components

@[simp] theorem same_iff {p q : Path} : p.same q = true ↔ p.components = q.components := by
  simp [same]

/-- Put a path after a directory: an absolute path stands for itself, and one slash separates the
two where there is none yet. -/
def join (directory path : Path) : Path :=
  if path.isAbsolute then path
  else if directory.octets = [] then path
  else if directory.octets.getLast? = some slash then ⟨directory.octets ++ path.octets⟩
  else ⟨directory.octets ++ slash :: path.octets⟩

/-- Put a name after a directory. -/
def joinText (directory : Path) (name : String) : Path := directory.join (ofString name)

/-- The octets of a component. -/
def Component.octets : Component → Bytes
  | .root => [slash]
  | .here => [dot]
  | .up => [dot, dot]
  | .name octets => octets

/-- The plain spelling of a component list. -/
def ofComponents (components : List Component) : Path :=
  components.foldl (fun path component => path.join ⟨component.octets⟩) empty

/-- The last component's name; none when the path ends in the root, `.` or `..`. -/
def fileName (path : Path) : Option Bytes :=
  match path.components.getLast? with
  | some (.name octets) => some octets
  | _ => none

/-- Split a name at its last dot, which belongs to neither part. A name without a dot, or with none
but its first octet, has no extension. -/
def splitExtension (name : Bytes) : Bytes × Option Bytes :=
  let extension := (name.reverse.takeWhile (· != dot)).reverse
  let before := (name.reverse.dropWhile (· != dot)).reverse.dropLast
  if before = [] then (name, none) else (before, some extension)

/-- The last component's name without its extension. -/
def fileStem (path : Path) : Option Bytes := path.fileName.map fun name => (splitExtension name).1

/-- Drop the pieces at the front that are no components. -/
def trimFront (pieces : List Piece) : List Piece := pieces.dropWhile (!·.counts)

/-- Drop the pieces at the end that are no components. -/
def trimBack (pieces : List Piece) : List Piece := (pieces.reverse.dropWhile (!·.counts)).reverse

/-- Spell pieces out, after the root where there is one. -/
def ofPieces (fromRoot : Bool) (pieces : List Piece) : Path :=
  let body := joinSlash (pieces.map Piece.octets)
  if fromRoot then ⟨slash :: body⟩ else ⟨body⟩

/-- The path without its last component, as it is spelled; none for the root and the empty path. -/
def parent (path : Path) : Option Path :=
  match (trimBack path.pieces).reverse with
  | [] => none
  | _ :: before => some (ofPieces path.isAbsolute (trimBack before.reverse))

/-- Replace the last name, or append one where there is no last name. -/
def withFileName (path : Path) (name : Bytes) : Path :=
  let directory := if path.fileName.isSome then path.parent.getD path else path
  directory.join ⟨name⟩

/-- Drop the pieces that make up the first `count` components. -/
def dropComponents : Nat → List Piece → List Piece
  | _, [] => []
  | 0, pieces => pieces
  | count + 1, piece :: others =>
    if piece.counts then dropComponents count others else dropComponents (count + 1) others

/-- The path below a base, component by component; none when it is not below it. -/
def relativeTo (path base : Path) : Option Path :=
  if base.components.isPrefixOf path.components then
    if base.components = [] then some (ofPieces path.isAbsolute (trimBack path.pieces))
    else
      let named := if path.isAbsolute then base.components.length - 1 else base.components.length
      some (ofPieces false (trimBack (trimFront (dropComponents named path.pieces))))
  else none

/-- One step of lexical cleaning, on the components kept so far, the last one first. -/
def cleanStep (kept : List Component) : Component → List Component
  | .here => kept
  | .up =>
    match kept with
    | .root :: _ => kept
    | .name _ :: before => before
    | _ => .up :: kept
  | component => component :: kept

/-- The components left by lexical cleaning: no `.`, and no `..` after a name or the root. -/
def cleanComponents (components : List Component) : List Component :=
  (components.foldl cleanStep []).reverse

/-- The shortest spelling with the same lexical meaning; `.` where nothing is left. -/
def clean (path : Path) : Path :=
  match cleanComponents path.components with
  | [] => ⟨[dot]⟩
  | components => ofComponents components

/-- The first path and the paths of its directories, one `parent` after the other; the count bounds
how many are followed. -/
def ancestorsFrom : Nat → Path → List Path
  | 0, path => [path]
  | count + 1, path =>
    match path.parent with
    | none => [path]
    | some above => path :: ancestorsFrom count above

/-- The path itself and all its directories, the nearest first. A parent is shorter, so the number
of octets bounds their number. -/
def ancestors (path : Path) : List Path := ancestorsFrom path.octets.length path

/-- Lexicographic order of octets. -/
def octetsLe : Bytes → Bytes → Bool
  | [], _ => true
  | _ :: _, [] => false
  | a :: as, b :: bs => if a < b then true else if b < a then false else octetsLe as bs

/-- The place of each kind of component in the order of components. -/
def Component.rank : Component → Nat
  | .root => 0
  | .here => 1
  | .up => 2
  | .name _ => 3

/-- The order of components: the root, then `.`, then `..`, then names by their octets. -/
def Component.le (a b : Component) : Bool :=
  match a, b with
  | .name m, .name n => octetsLe m n
  | a, b => a.rank ≤ b.rank

/-- Lexicographic order of component lists. -/
def componentsLe : List Component → List Component → Bool
  | [], _ => true
  | _ :: _, [] => false
  | a :: as, b :: bs => if a = b then componentsLe as bs else a.le b

/-- The order of paths, by their components. -/
def le (p q : Path) : Bool := componentsLe p.components q.components

end Path

end BundleFinish
