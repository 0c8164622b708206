import BundleFinish.Proofs.Preparation
import BundleFinish.Proofs.ProbedCompilers

/-! # The settings file that is read

A settings file is asked for under a path, seen from the working directory. Where no regular file
stands there, a relative path is tried in the directories above as well, so settings can come from a
file that nobody named. No other file than the named one is read exactly where the path is absolute
or leads to a regular file, where none is looked for, or where no directory above has such a file
(`Configuration.readsOnlyNamed_iff`). -/

namespace BundleFinish

namespace Path

/-- The nearest of a path and its directories is the path. -/
theorem ancestors_eq_cons (path : Path) : path.ancestors = path :: path.ancestors.tail := by
  unfold ancestors
  rcases path.octets.length with _ | count
  · rfl
  · rw [ancestorsFrom]
    rcases path.parent with _ | above <;> rfl

/-- An absolute path stands for itself, behind every directory. -/
theorem join_of_isAbsolute (directory : Path) {path : Path} (absolute : path.isAbsolute = true) :
    directory.join path = path := by
  rw [join, if_pos absolute]

end Path

namespace Configuration

open BundleFinish.Path

variable {a b workspace : Workspace} {path? : Option Path} {path : Path}

/-! ## The file that is named -/

/-- The path under which a settings file is asked for. -/
def askedName (path? : Option Path) : Path := path?.getD (.ofString fileName)

/-- The settings file that is named: the one directly in the working directory, for a relative
path. -/
def namedFile (workspace : Workspace) (path? : Option Path) : Path :=
  workspace.directoryPath.join (askedName path?)

/-- Whether a settings file is asked for: where none is named, something has to stand under the
usual name in the working directory. -/
def IsAsked (workspace : Workspace) (path? : Option Path) : Prop :=
  path? = none → workspace.exists? (.ofString fileName) = true

instance (workspace : Workspace) (path? : Option Path) : Decidable (IsAsked workspace path?) :=
  inferInstanceAs (Decidable (_ → _))

/-- The settings file that is read, if any. -/
def settingsFile? (workspace : Workspace) (path? : Option Path) : Option Path :=
  if IsAsked workspace path? then findFile? workspace (askedName path?) else none

/-- Every path is looked for behind the working directory and those above it; an absolute one is the
same path behind all of them. -/
theorem findFile?_eq_find? (workspace : Workspace) (path : Path) :
    findFile? workspace path =
      (workspace.directoryPath.ancestors.map fun directory => directory.join path).find?
        workspace.isFile := by
  unfold findFile?
  split_ifs with absolute isFile
  · rw [ancestors_eq_cons, List.map_cons, join_of_isAbsolute _ absolute,
      List.find?_cons_of_pos isFile]
  · refine (List.find?_eq_none.mpr fun candidate member => ?_).symm
    obtain ⟨directory, -, rfl⟩ := List.mem_map.mp member
    rwa [join_of_isAbsolute directory absolute]
  · rfl

/-- The file that is found is a regular one, and its path is absolute. -/
theorem isFile_of_findFile? {found : Path} (there : findFile? workspace path = some found) :
    found.isAbsolute = true ∧ workspace.isFile found = true := by
  rw [findFile?_eq_find?] at there
  obtain ⟨directory, above, rfl⟩ := List.mem_map.mp (List.mem_of_find?_eq_some there)
  have absolute := isAbsolute_of_mem_ancestors workspace.directory.isAbsolute_path above
  exact ⟨isAbsolute_join_of_isAbsolute absolute path, List.find?_some there⟩

/-- The settings that are read are those of the file that is found. -/
theorem fileLayer_of_findFile? {found : Path} (there : findFile? workspace path = some found) :
    fileLayer workspace path = fileLayer workspace found := by
  obtain ⟨absolute, isFile⟩ := isFile_of_findFile? there
  have itself : findFile? workspace found = some found := by
    rw [findFile?, if_pos absolute, if_pos isFile]
  rw [fileLayer, there, fileLayer, itself]

/-- Settings are those of the file that is read, as if it were named itself. -/
theorem layers_of_settingsFile? {found : Path}
    (read : settingsFile? workspace path? = some found) :
    layers workspace path? = layers workspace (some found) := by
  unfold settingsFile? at read
  split_ifs at read with asked
  have same := fileLayer_of_findFile? read
  rcases path? with _ | path
  · unfold layers
    dsimp only
    rw [if_pos (asked rfl)]
    exact congrArg (· >>= _) same
  · exact congrArg (· >>= _) same

/-- Where no file is read, settings are the defaults and the variables. -/
theorem layers_of_settingsFile?_eq_none (unread : settingsFile? workspace path? = none) :
    layers workspace path? =
      .ok (defaultLayer.merge (Settings.ofVariables workspace.environment)) := by
  have silent : IsAsked workspace path? → fileLayer workspace (askedName path?) = .ok none := by
    intro asked
    rw [settingsFile?, if_pos asked] at unread
    rw [fileLayer, unread]
  rcases path? with _ | path
  · unfold layers
    dsimp only
    by_cases stands : workspace.exists? (.ofString fileName) = true
    · rw [if_pos stands]
      exact congrArg (· >>= _) (silent fun _ => stands)
    · rw [if_neg stands]
      rfl
  · exact congrArg (· >>= _) (silent nofun)

/-! ## What the settings depend on -/

/-- The settings file is fixed by what is named: the path is absolute, no file is asked for, or the
named file is a regular one. -/
def IsFixed (workspace : Workspace) (path? : Option Path) : Prop :=
  (askedName path?).isAbsolute = true ∨ ¬IsAsked workspace path? ∨
    workspace.isFile (namedFile workspace path?) = true

instance (workspace : Workspace) (path? : Option Path) : Decidable (IsFixed workspace path?) :=
  inferInstanceAs (Decidable (_ ∨ _))

/-- No settings file is read but the one that is named. -/
def ReadsOnlyNamed (workspace : Workspace) (path? : Option Path) : Prop :=
  ∀ found, settingsFile? workspace path? = some found → found = namedFile workspace path?

/-- Two workspaces with the same working directory, environment and settings file under the path
that is named. All their other files may differ. -/
structure SameNamed (a b : Workspace) (path? : Option Path) : Prop where
  directory : a.directory = b.directory
  environment : a.environment = b.environment
  usual : path? = none → a.exists? (.ofString fileName) = b.exists? (.ofString fileName)
  isFile : a.isFile (namedFile a path?) = b.isFile (namedFile b path?)
  text : a.files.readText a.directory (namedFile a path?) =
    b.files.readText b.directory (namedFile b path?)

/-- The named file is read where it is a regular one; else the one that the path leads to from the
nearest directory above from which it leads to a regular file. -/
theorem settingsFile?_of_isAsked (asked : IsAsked workspace path?) :
    settingsFile? workspace path? =
      if workspace.isFile (namedFile workspace path?) then some (namedFile workspace path?)
      else (workspace.directoryPath.ancestors.tail.find? fun above =>
        workspace.isFile (above.join (askedName path?))).map fun above =>
          above.join (askedName path?) := by
  rw [settingsFile?, if_pos asked, findFile?_eq_find?, ancestors_eq_cons, List.map_cons,
    List.find?_cons, List.find?_map, namedFile]
  rcases workspace.isFile (workspace.directoryPath.join (askedName path?)) <;> rfl

/-- Another file is read only where one is asked for, the named one is not a regular file, and the
path leads to a regular file from a directory above; then the nearest of these counts. -/
theorem exists_nearest_of_not_readsOnlyNamed (stray : ¬ReadsOnlyNamed workspace path?) :
    IsAsked workspace path? ∧ workspace.isFile (namedFile workspace path?) = false ∧
      ∃ before above after, workspace.directoryPath.ancestors.tail = before ++ above :: after ∧
        (∀ nearer ∈ before, workspace.isFile (nearer.join (askedName path?)) = false) ∧
        workspace.isFile (above.join (askedName path?)) = true ∧
        settingsFile? workspace path? = some (above.join (askedName path?)) := by
  obtain ⟨found, read, other⟩ : ∃ found, settingsFile? workspace path? = some found ∧
      found ≠ namedFile workspace path? := by
    simpa [ReadsOnlyNamed] using stray
  by_cases asked : IsAsked workspace path?
  case neg =>
    rw [settingsFile?, if_neg asked] at read
    cases read
  case pos =>
    have found_eq := read
    rw [settingsFile?_of_isAsked asked] at read
    split_ifs at read with isFile
    · exact absurd (Option.some.inj read).symm other
    · obtain ⟨above, nearest, rfl⟩ := Option.map_eq_some_iff.mp read
      obtain ⟨there, before, after, shape, missing⟩ := List.find?_eq_some_iff_append.mp nearest
      refine ⟨asked, Bool.eq_false_iff.mpr isFile, before, above, after, shape, ?_, there, found_eq⟩
      exact fun nearer member => by simpa using missing nearer member

/-- Where the settings file is fixed, no other is read. -/
theorem IsFixed.readsOnlyNamed (fixed : IsFixed workspace path?) :
    ReadsOnlyNamed workspace path? := by
  by_contra stray
  obtain ⟨asked, missing, before, above, after, -, -, there, -⟩ :=
    exists_nearest_of_not_readsOnlyNamed stray
  rcases fixed with absolute | unasked | isFile
  · rw [namedFile, join_of_isAbsolute _ absolute] at missing
    rw [join_of_isAbsolute _ absolute, missing] at there
    cases there
  · exact unasked asked
  · rw [missing] at isFile
    cases isFile

/-- No file but the named one is read exactly where the settings file is fixed or no directory above
has such a file. -/
theorem readsOnlyNamed_iff_isFixed_or (workspace : Workspace) (path? : Option Path) :
    ReadsOnlyNamed workspace path? ↔ IsFixed workspace path? ∨
      ∀ above ∈ workspace.directoryPath.ancestors.tail,
        workspace.isFile (above.join (askedName path?)) = false := by
  constructor
  · refine fun only => or_iff_not_imp_left.mpr fun loose above member => ?_
    obtain ⟨-, asked, isFile⟩ : (askedName path?).isAbsolute ≠ true ∧ IsAsked workspace path? ∧
        workspace.isFile (namedFile workspace path?) ≠ true := by
      simpa only [IsFixed, not_or, not_not] using loose
    refine Bool.eq_false_iff.mpr fun there => ?_
    -- A file of a directory above would be read, and is not the named one.
    have read := settingsFile?_of_isAsked asked
    rw [if_neg isFile] at read
    have present : (workspace.directoryPath.ancestors.tail.find? fun above =>
        workspace.isFile (above.join (askedName path?))).isSome := by
      rw [List.find?_isSome]
      exact ⟨above, member, there⟩
    obtain ⟨nearest, isNearest⟩ := Option.isSome_iff_exists.mp present
    have found := List.find?_some isNearest
    rw [isNearest] at read
    exact isFile (only _ read ▸ found)
  · rintro (fixed | none)
    · exact fixed.readsOnlyNamed
    · by_contra stray
      obtain ⟨-, -, before, above, after, shape, -, there, -⟩ :=
        exists_nearest_of_not_readsOnlyNamed stray
      rw [none above (by rw [shape]; simp)] at there
      cases there

/-- Where no file but the named one is read, that is read where it is asked for and a regular
file. -/
theorem ReadsOnlyNamed.settingsFile?_eq (only : ReadsOnlyNamed workspace path?) :
    settingsFile? workspace path? =
      if IsAsked workspace path? ∧ workspace.isFile (namedFile workspace path?) = true then
        some (namedFile workspace path?)
      else none := by
  split_ifs with isRead
  · rw [settingsFile?_of_isAsked isRead.1, if_pos isRead.2]
  · refine Option.eq_none_iff_forall_ne_some.mpr fun found read => isRead ?_
    obtain rfl := only found read
    unfold settingsFile? at read
    split_ifs at read with asked
    exact ⟨asked, (isFile_of_findFile? read).2⟩

namespace SameNamed

/-- One file is named. -/
theorem namedFile_eq (same : SameNamed a b path?) : namedFile a path? = namedFile b path? := by
  rw [namedFile, namedFile, Workspace.directoryPath, Workspace.directoryPath, same.directory]

/-- A file is asked for in both workspaces, or in none. -/
theorem isAsked_iff (same : SameNamed a b path?) : IsAsked a path? ↔ IsAsked b path? :=
  forall_congr' fun unnamed => by rw [same.usual unnamed]

/-- The settings file is fixed in both workspaces, or in none. -/
theorem isFixed_iff (same : SameNamed a b path?) : IsFixed a path? ↔ IsFixed b path? := by
  rw [IsFixed, IsFixed, same.isAsked_iff, same.isFile]

/-- The settings in the named file are the same. -/
theorem fileLayer_eq (same : SameNamed a b path?) :
    fileLayer a (namedFile a path?) = fileLayer b (namedFile b path?) := by
  have absolute : (namedFile b path?).isAbsolute = true :=
    isAbsolute_join_of_isAbsolute b.directory.isAbsolute_path _
  have isFile := same.isFile
  have text := same.text
  rw [same.namedFile_eq] at isFile text ⊢
  rw [fileLayer, fileLayer, findFile?, findFile?, if_pos absolute, if_pos absolute, isFile]
  split_ifs
  · dsimp only
    rw [text, Workspace.directoryPath, Workspace.directoryPath, same.directory]
  · rfl

/-- Where no file but the named one is read, nothing else matters. -/
theorem layers_eq (same : SameNamed a b path?) (onlyA : ReadsOnlyNamed a path?)
    (onlyB : ReadsOnlyNamed b path?) : layers a path? = layers b path? := by
  have readA := onlyA.settingsFile?_eq
  have readB := onlyB.settingsFile?_eq
  simp only [same.isAsked_iff, same.isFile] at readA
  split_ifs at readA readB with isRead
  · rw [layers_of_settingsFile? readA, layers_of_settingsFile? readB]
    unfold layers
    dsimp only
    rw [same.fileLayer_eq, same.environment]
  · rw [layers_of_settingsFile?_eq_none readA, layers_of_settingsFile?_eq_none readB,
      same.environment]

end SameNamed

/-- **The settings file that is read.** No settings file but the named one is read exactly where the
file is fixed by what is named, or the path leads to a regular file from no directory above. Where
it is fixed, a configuration depends on no other file: every workspace with the same working
directory, environment and named file gives the same one, whatever its other files are. So do two
workspaces with the same named file in both of which no other is read. Anywhere else the settings
are those of the file from the nearest directory above, as if that were named. -/
theorem readsOnlyNamed_iff (path? : Option Path) :
    (∀ workspace, ReadsOnlyNamed workspace path? ↔ IsFixed workspace path? ∨
      ∀ above ∈ workspace.directoryPath.ancestors.tail,
        workspace.isFile (above.join (askedName path?)) = false) ∧
    (∀ a, IsFixed a path? → ∀ b, SameNamed a b path? →
      load (layers a path?) = load (layers b path?)) ∧
    (∀ a b, SameNamed a b path? → ReadsOnlyNamed a path? → ReadsOnlyNamed b path? →
      load (layers a path?) = load (layers b path?)) ∧
    ∀ workspace, ¬ReadsOnlyNamed workspace path? → ∃ before above after,
      workspace.directoryPath.ancestors.tail = before ++ above :: after ∧
      (∀ nearer ∈ before, workspace.isFile (nearer.join (askedName path?)) = false) ∧
      workspace.isFile (above.join (askedName path?)) = true ∧
      load (layers workspace path?) =
        load (layers workspace (some (above.join (askedName path?)))) := by
  have agree : ∀ a b, SameNamed a b path? → ReadsOnlyNamed a path? → ReadsOnlyNamed b path? →
      load (layers a path?) = load (layers b path?) :=
    fun a b same onlyA onlyB => congrArg load (same.layers_eq onlyA onlyB)
  refine ⟨fun workspace => readsOnlyNamed_iff_isFixed_or workspace path?, fun a fixed b same => ?_,
    agree, fun workspace stray => ?_⟩
  · exact agree a b same fixed.readsOnlyNamed (same.isFixed_iff.mp fixed).readsOnlyNamed
  · obtain ⟨-, -, before, above, after, shape, missing, there, read⟩ :=
      exists_nearest_of_not_readsOnlyNamed stray
    refine ⟨before, above, after, shape, missing, there, ?_⟩
    exact congrArg load (layers_of_settingsFile? read)

/-- A workspace in the directory `sub`, where a directory has the usual name of settings files, with
other files beside it. -/
def besideSettings (others : List (Location × Node)) : Workspace :=
  .start
    (.ofNodes ([([Utf8.encode "sub"], .directory),
      ([Utf8.encode "sub", Utf8.encode fileName], .directory)] ++ others))
    [Utf8.encode "sub"] [("FOB_POSTBUILD_ENTRY_POINTS", "[a.ts]")] none

/-- A settings file in the directory above. -/
def straySettings (name : String) : List (Location × Node) :=
  [([Utf8.encode name], .file (Utf8.encode "\x7b\"out_dir\": \"stray\"\x7d") none)]

/-- A settings file in the directory `sub`. -/
def ownSettings : List (Location × Node) :=
  [([Utf8.encode "sub", Utf8.encode "own.json"],
    .file (Utf8.encode "\x7b\"out_dir\": \"own\"\x7d") none)]

/-- A file in the working directory is read whatever stands above; the usual name, which is that of
a directory there, leads to the file above. -/
theorem readsOnlyNamed_sample :
    let own := some (Path.ofString "own.json")
    let busy := besideSettings (ownSettings ++ straySettings fileName)
    IsFixed busy own ∧ load (layers busy own) = load (layers (besideSettings ownSettings) own) ∧
      ¬ReadsOnlyNamed busy none ∧
      load (layers busy none) = load (layers busy (some (.ofString "/fob-postbuild.json"))) := by
  intro own busy
  obtain ⟨-, alike, -, -⟩ := readsOnlyNamed_iff own
  have fixed : IsFixed busy own := .inr (.inr (by decide +kernel))
  have same : SameNamed busy (besideSettings ownSettings) own :=
    ⟨rfl, rfl, nofun, by decide +kernel, by decide +kernel⟩
  obtain ⟨usual, -, -, nearest⟩ := readsOnlyNamed_iff none
  have stray : ¬ReadsOnlyNamed busy none := (usual busy).not.mpr (by decide +kernel)
  refine ⟨fixed, alike busy fixed _ same, stray, ?_⟩
  obtain ⟨before, above, after, shape, -, -, read⟩ := nearest busy stray
  have root : busy.directoryPath.ancestors.tail = [.root] := by decide +kernel
  obtain ⟨rfl, rfl, rfl⟩ : before = [] ∧ above = .root ∧ after = [] := by
    rw [root, List.singleton_eq_append_iff] at shape
    simpa [eq_comm] using shape
  exact read

/-- A configuration can depend on a file that is not named: a missing file is replaced by one of its
name in the directory above, and so is a directory that has the usual name. -/
theorem not_forall_load_eq :
    (¬∀ a b path, SameNamed a b (some path) →
      load (layers a (some path)) = load (layers b (some path))) ∧
    ¬∀ a b, SameNamed a b none → load (layers a none) = load (layers b none) := by
  refine ⟨fun alike => ?_, fun alike => ?_⟩
  · have same : SameNamed (besideSettings (straySettings "own.json")) (besideSettings [])
        (some (.ofString "own.json")) :=
      ⟨rfl, rfl, nofun, by decide +kernel, by decide +kernel⟩
    exact absurd (alike _ _ _ same) (by decide +kernel)
  · have same : SameNamed (besideSettings (straySettings fileName)) (besideSettings []) none :=
      ⟨rfl, rfl, fun _ => by decide +kernel, by decide +kernel, by decide +kernel⟩
    exact absurd (alike _ _ same) (by decide +kernel)

end Configuration

end BundleFinish
