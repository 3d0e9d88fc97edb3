import Phrasebook.FileTree
import Phrasebook.Proofs.Dictionary

/-!
# Writing into file trees

Where a path leads is decided by its segments and the working directory alone (`placeOf`); the tree
only decides whether the way is there. Writing never takes a directory away, so a way that is there
stays there, and a file that is not written keeps its text.

Results:
* `FileTree.resolve_eq_placeOf`: a path leads to its place, in any tree that has the way.
* `FileTree.wrote_write`: how a write ends.
* `FileTree.readText_write`: a written text is read at its path.
* `FileTree.entry?_of_keepsBut`: what stands at another place stays there.
* `FileTree.keepsBut_write`, `FileTree.SameFiles.keepsBut_write`: what writing changes.
* `FileTree.sameFiles_createDirectories`: new directories leave all files as they are.
-/

namespace Phrasebook.FileTree

/-! ## The place of a path -/

/-- The place after one segment, by its name alone. -/
def stepTo (place : Place) (segment : String) : Place :=
  if Path.isIdle segment then place
  else if segment = ".." then place.dropLast
  else place ++ [segment]

/-- The place of a path seen from a working directory. -/
def placeOf (workingDirectory : Place) (path : String) : Place :=
  (Path.segments path).foldl stepTo (if Path.isAbsolute path then [] else workingDirectory)

/-- What it takes to follow a segment: a directory to start from, and a name that is short. -/
theorem follow_cons_eq_ok_iff {tree : FileTree} {place result : Place} {segment : String}
    {rest : List String} :
    tree.follow place (segment :: rest) = .ok result
      ↔ tree.entryAt? place = some .directory
        ∧ (Path.isIdle segment ∨ segment = ".." ∨ segment.utf8ByteSize ≤ nameLimit)
        ∧ tree.follow (stepTo place segment) rest = .ok result := by
  rw [follow, stepTo]
  cases hentry : tree.entryAt? place with
  | none => simp
  | some entry =>
    cases entry with
    | file content stamp => simp
    | directory =>
      dsimp only
      by_cases hidle : Path.isIdle segment
      · simp [hidle]
      · by_cases hparent : segment = ".."
        · rw [if_neg hidle, if_neg hidle, if_pos hparent, if_pos hparent]
          simp [hparent]
        · by_cases hlong : nameLimit < segment.utf8ByteSize
          · simp [hidle, hparent, hlong, Nat.not_le_of_lt hlong]
          · simp [hidle, hparent, hlong, Nat.le_of_not_lt hlong]

/-- The segments that could be followed lead to their place. -/
theorem follow_eq_foldl {tree : FileTree} {place result : Place} {segments : List String}
    (h : tree.follow place segments = .ok result) : result = segments.foldl stepTo place := by
  induction segments generalizing place with
  | nil => exact (Except.ok.inj h).symm
  | cons segment rest ih => exact ih (follow_cons_eq_ok_iff.1 h).2.2

/-- What a path that can be resolved is. -/
theorem resolve_eq_ok_iff {tree : FileTree} {path : String} {place : Place} :
    tree.resolve path = .ok place
      ↔ path.toList.contains '\x00' = false ∧ path ≠ "" ∧ path.utf8ByteSize ≤ pathLimit
        ∧ tree.follow (if Path.isAbsolute path then [] else tree.workingDirectory)
            (Path.segments path) = .ok place := by
  unfold resolve
  by_cases hnull : path.toList.contains '\x00' = true
  · rw [if_pos hnull, hnull]
    simp
  · by_cases hempty : path = ""
    · rw [if_neg hnull, if_pos hempty]
      simp [hempty]
    · by_cases hlong : pathLimit < path.utf8ByteSize
      · rw [if_neg hnull, if_neg hempty, if_pos hlong]
        simp [Nat.not_le_of_lt hlong]
      · rw [if_neg hnull, if_neg hempty, if_neg hlong]
        constructor
        · exact fun h => ⟨Bool.not_eq_true _ ▸ hnull, hempty, Nat.le_of_not_lt hlong, h⟩
        · exact fun h => h.2.2.2

/-- **A path leads to its place**, in any tree that has the way. -/
theorem resolve_eq_placeOf {tree : FileTree} {path : String} {place : Place}
    (h : tree.resolve path = .ok place) : place = placeOf tree.workingDirectory path :=
  follow_eq_foldl (resolve_eq_ok_iff.1 h).2.2.2

/-! ## What stays -/

/-- Everything stands where it stood, but for what a file with one key holds. -/
structure KeepsBut (key : String) (before after : FileTree) : Prop where
  workingDirectory : after.workingDirectory = before.workingDirectory
  directories : ∀ other, before.entries.get? other = some .directory →
    after.entries.get? other = some .directory
  others : ∀ other entry, other ≠ key → before.entries.get? other = some entry →
    after.entries.get? other = some entry

namespace KeepsBut

variable {key : String} {before middle after : FileTree}

theorem refl (key : String) (tree : FileTree) : KeepsBut key tree tree :=
  ⟨rfl, fun _ h => h, fun _ _ _ h => h⟩

theorem trans (first : KeepsBut key before middle) (second : KeepsBut key middle after) :
    KeepsBut key before after where
  workingDirectory := second.workingDirectory.trans first.workingDirectory
  directories other h := second.directories other (first.directories other h)
  others other entry hne h := second.others other entry hne (first.others other entry hne h)

theorem entryAt?_directory (h : KeepsBut key before after) {place : Place}
    (hentry : before.entryAt? place = some .directory) :
    after.entryAt? place = some .directory := by
  unfold entryAt? at hentry ⊢
  by_cases hroot : place.isEmpty
  · rw [if_pos hroot]
  · rw [if_neg hroot] at hentry ⊢
    exact h.directories _ hentry

theorem entryAt?_other (h : KeepsBut key before after) {place : Place} {entry : FileEntry}
    (hne : keyOf place ≠ key) (hentry : before.entryAt? place = some entry) :
    after.entryAt? place = some entry := by
  unfold entryAt? at hentry ⊢
  by_cases hroot : place.isEmpty
  · rwa [if_pos hroot] at hentry ⊢
  · rw [if_neg hroot] at hentry ⊢
    exact h.others _ entry hne hentry

/-- A way that is there stays there. -/
theorem follow (h : KeepsBut key before after) {place result : Place} {segments : List String}
    (hfollow : before.follow place segments = .ok result) :
    after.follow place segments = .ok result := by
  induction segments generalizing place with
  | nil => exact hfollow
  | cons segment rest ih =>
    obtain ⟨hentry, hname, hrest⟩ := follow_cons_eq_ok_iff.1 hfollow
    exact follow_cons_eq_ok_iff.2 ⟨h.entryAt?_directory hentry, hname, ih hrest⟩

theorem resolve (h : KeepsBut key before after) {path : String} {place : Place}
    (hresolve : before.resolve path = .ok place) : after.resolve path = .ok place := by
  obtain ⟨hnull, hempty, hlong, hfollow⟩ := resolve_eq_ok_iff.1 hresolve
  rw [← h.workingDirectory] at hfollow
  exact resolve_eq_ok_iff.2 ⟨hnull, hempty, hlong, h.follow hfollow⟩

end KeepsBut

/-! ## Reading -/

/-- What it takes to read a text. -/
theorem readText_eq_ok_iff {tree : FileTree} {path text : String} :
    tree.readText path = .ok text
      ↔ ∃ place stamp, tree.resolve path = .ok place
        ∧ tree.entryAt? place = some (.file (.text text) stamp) := by
  unfold readText find
  cases hresolve : tree.resolve path with
  | error fault => simp [bind, Except.bind]
  | ok place =>
    cases hentry : tree.entryAt? place with
    | none => simp [bind, Except.bind, hentry]
    | some entry =>
      rcases entry with _ | ⟨_ | _, _⟩ <;> simp [bind, Except.bind, hentry]

/-- What stands at a path. -/
theorem entry?_eq_some_iff {tree : FileTree} {path : String} {entry : FileEntry} :
    tree.entry? path = some entry
      ↔ ∃ place, tree.resolve path = .ok place ∧ tree.entryAt? place = some entry := by
  unfold entry? find
  cases hresolve : tree.resolve path with
  | error fault => simp [bind, Except.bind, Except.toOption]
  | ok place =>
    cases hentry : tree.entryAt? place <;>
      simp [bind, Except.bind, Except.toOption, hentry]

/-- What is read of a text stands at its path. -/
theorem readText_eq_ok_iff_exists_stamp {tree : FileTree} {path text : String} :
    tree.readText path = .ok text
      ↔ ∃ stamp, tree.entry? path = some (.file (.text text) stamp) := by
  rw [readText_eq_ok_iff, exists_comm]
  simp only [entry?_eq_some_iff]

/-- **What stands at another place** stays there. -/
theorem entry?_of_keepsBut {key : String} {before after : FileTree}
    (h : KeepsBut key before after) {path : String} {entry : FileEntry}
    (hne : keyOf (placeOf before.workingDirectory path) ≠ key)
    (hentry : before.entry? path = some entry) : after.entry? path = some entry := by
  obtain ⟨place, hresolve, hplace⟩ := entry?_eq_some_iff.1 hentry
  rw [← resolve_eq_placeOf hresolve] at hne
  exact entry?_eq_some_iff.2 ⟨place, h.resolve hresolve, h.entryAt?_other hne hplace⟩

/-- A text at another place is read as before. -/
theorem readText_of_keepsBut {key : String} {before after : FileTree}
    (h : KeepsBut key before after) {path text : String}
    (hne : keyOf (placeOf before.workingDirectory path) ≠ key)
    (hread : before.readText path = .ok text) : after.readText path = .ok text := by
  obtain ⟨stamp, hentry⟩ := readText_eq_ok_iff_exists_stamp.1 hread
  exact readText_eq_ok_iff_exists_stamp.2 ⟨stamp, entry?_of_keepsBut h hne hentry⟩

/-! ## Writing -/

theorem fileToWrite_eq_ok_iff {tree : FileTree} {path : String} {place : Place} :
    tree.fileToWrite path = .ok place
      ↔ tree.resolve path = .ok place ∧ tree.entryAt? place ≠ some .directory := by
  unfold fileToWrite
  cases hresolve : tree.resolve path with
  | error fault => simp [bind, Except.bind]
  | ok found =>
    simp only [bind, Except.bind, Except.ok.injEq]
    split
    · next hentry => exact ⟨nofun, fun h => absurd (h.1 ▸ hentry) h.2⟩
    · next hentry =>
      refine ⟨fun h => ?_, fun h => congrArg _ h.1⟩
      obtain rfl := Except.ok.inj h
      exact ⟨rfl, hentry⟩

/-- How a write ends. -/
inductive Wrote (tree : FileTree) (path text : String) : Except FileFault Unit × FileTree → Prop
  /-- The file cannot be opened, and nothing changes. -/
  | refused (fault : FileFault) : Wrote tree path text (.error fault, tree)
  /-- The file holds the text. -/
  | whole {place : Place} (way : tree.resolve path = .ok place)
      (file : tree.entryAt? place ≠ some .directory) :
      Wrote tree path text (.ok (), tree.put place (.text text))
  /-- The file holds a first part of the text, and the disk takes no more. -/
  | cut {place : Place} (way : tree.resolve path = .ok place)
      (file : tree.entryAt? place ≠ some .directory) {count : Nat}
      (short : count < text.utf8ByteSize) :
      Wrote tree path text (.error .noSpace, tree.put place (.firstBytes text count))

/-- **Every write ends in one of these ways.** -/
theorem wrote_write (tree : FileTree) (path text : String) :
    Wrote tree path text (tree.write path text) := by
  unfold write
  cases hfile : tree.fileToWrite path with
  | error fault => exact .refused fault
  | ok place =>
    obtain ⟨way, file⟩ := fileToWrite_eq_ok_iff.1 hfile
    dsimp only
    cases hcut : tree.cut? text with
    | none => exact .whole way file
    | some count =>
      have hshort := (Option.filter_eq_some_iff.1 hcut).2
      exact .cut way file (of_decide_eq_true hshort)

/-- A place that is not a directory has its entry under its key. -/
theorem entryAt?_eq_get? {tree : FileTree} {place : Place}
    (h : tree.entryAt? place ≠ some .directory) (other : FileTree) :
    other.entryAt? place = other.entries.get? (keyOf place) := by
  unfold entryAt? at h ⊢
  by_cases hroot : place.isEmpty
  · rw [if_pos hroot] at h
    exact absurd rfl h
  · rw [if_neg hroot]

theorem keepsBut_put {tree : FileTree} {place : Place}
    (h : tree.entryAt? place ≠ some .directory) (content : FileContent) :
    KeepsBut (keyOf place) tree (tree.put place content) := by
  have hother : ∀ other entry, other ≠ keyOf place → tree.entries.get? other = some entry →
      (tree.put place content).entries.get? other = some entry := by
    intro other entry hne hget
    unfold put
    rw [Dictionary.get?_insert, if_neg (Ne.symm hne), hget]
  refine ⟨rfl, fun other hget => ?_, hother⟩
  by_cases hsame : other = keyOf place
  · rw [entryAt?_eq_get? h, ← hsame] at h
    exact absurd hget h
  · exact hother other .directory hsame hget

/-- What was put into a file is there. -/
theorem entryAt?_put {tree : FileTree} {place : Place}
    (h : tree.entryAt? place ≠ some .directory) (content : FileContent) :
    (tree.put place content).entryAt? place = some (.file content tree.nextStamp) := by
  rw [entryAt?_eq_get? h]
  unfold put
  rw [Dictionary.get?_insert, if_pos rfl]

/-- **A write changes nothing but the file at its path**, however it ends. -/
theorem keepsBut_write {tree after : FileTree} {path text : String} {found : Except FileFault Unit}
    (h : tree.write path text = (found, after)) :
    KeepsBut (keyOf (placeOf tree.workingDirectory path)) tree after := by
  have hwrote := tree.wrote_write path text
  rw [h] at hwrote
  cases hwrote with
  | refused => exact .refl _ tree
  | whole way file => exact resolve_eq_placeOf way ▸ keepsBut_put file _
  | cut way file => exact resolve_eq_placeOf way ▸ keepsBut_put file _

/-- **A written text is read at its path.** -/
theorem readText_write {tree after : FileTree} {path text : String}
    (h : tree.write path text = (.ok (), after)) : after.readText path = .ok text := by
  have hkeeps := keepsBut_write h
  have hwrote := tree.wrote_write path text
  rw [h] at hwrote
  cases hwrote with
  | whole way file =>
    exact readText_eq_ok_iff.2 ⟨_, tree.nextStamp, hkeeps.resolve way, entryAt?_put file _⟩

/-! ## New directories -/

/-- What it takes to add a directory, and what it leaves. -/
theorem createDirectory_eq_ok_iff {tree after : FileTree} {path : String} :
    tree.createDirectory path = .ok after
      ↔ ∃ place, tree.resolve (Path.withoutEndSlashes path) = .ok place
        ∧ tree.entryAt? place = none
        ∧ after = { tree with entries := tree.entries.insert (keyOf place) .directory } := by
  unfold createDirectory
  cases hresolve : tree.resolve (Path.withoutEndSlashes path) with
  | error fault => simp [bind, Except.bind]
  | ok place => cases hentry : tree.entryAt? place <;> simp [bind, Except.bind, hentry, eq_comm]

/-- The file at a place, with its stamp. -/
def fileAt? (tree : FileTree) (place : Place) : Option (FileContent × Nat) :=
  match tree.entryAt? place with
  | some (.file content stamp) => some (content, stamp)
  | _ => none

/-- There are new directories at most: everything stands where it stood, and no file is new. -/
structure SameFiles (before after : FileTree) : Prop where
  keeps : ∀ key, KeepsBut key before after
  fileAt? : ∀ place, after.fileAt? place = before.fileAt? place

namespace SameFiles

variable {before middle after : FileTree}

theorem refl (tree : FileTree) : SameFiles tree tree := ⟨fun key => .refl key tree, fun _ => rfl⟩

theorem trans (first : SameFiles before middle) (second : SameFiles middle after) :
    SameFiles before after where
  keeps key := (first.keeps key).trans (second.keeps key)
  fileAt? place := (second.fileAt? place).trans (first.fileAt? place)

theorem workingDirectory (h : SameFiles before after) :
    after.workingDirectory = before.workingDirectory := (h.keeps "").workingDirectory

/-- A write after new directories changes nothing but the file at its path. -/
theorem keepsBut_write (h : SameFiles before middle) {path text : String}
    {found : Except FileFault Unit} (hwrite : middle.write path text = (found, after)) :
    KeepsBut (keyOf (placeOf before.workingDirectory path)) before after := by
  have hfile := FileTree.keepsBut_write hwrite
  rw [h.workingDirectory] at hfile
  exact (h.keeps _).trans hfile

/-- A text is read as before. -/
theorem readText (h : SameFiles before after) {path text : String}
    (hread : before.readText path = .ok text) : after.readText path = .ok text := by
  refine readText_of_keepsBut (h.keeps "") ?_ hread
  simp [keyOf]

end SameFiles

theorem sameFiles_createDirectory {tree after : FileTree} {path : String}
    (h : tree.createDirectory path = .ok after) : SameFiles tree after := by
  obtain ⟨place, -, hentry, rfl⟩ := createDirectory_eq_ok_iff.1 h
  have hplace : tree.entryAt? place ≠ some .directory := by
    rw [hentry]
    exact nofun
  rw [entryAt?_eq_get? hplace tree] at hentry
  -- Nothing stands at the new key, so that what stands anywhere stands at another one.
  have hkeep : ∀ other entry, tree.entries.get? other = some entry →
      (tree.entries.insert (keyOf place) .directory).get? other = some entry := by
    intro other entry hget
    have hne : keyOf place ≠ other := by
      rintro rfl
      rw [hentry] at hget
      cases hget
    rw [Dictionary.get?_insert, if_neg hne, hget]
  refine ⟨fun key => ⟨rfl, fun other => hkeep other .directory,
    fun other entry _ => hkeep other entry⟩, fun other => ?_⟩
  unfold fileAt? entryAt?
  by_cases hroot : other.isEmpty
  · rw [if_pos hroot, if_pos hroot]
  · rw [if_neg hroot, if_neg hroot, Dictionary.get?_insert]
    by_cases hkey : keyOf place = keyOf other
    · rw [if_pos hkey, ← hkey, hentry]
    · rw [if_neg hkey]

theorem sameFiles_createDirectoriesFor {tree after : FileTree} {path : String} {depth : Nat}
    (h : tree.createDirectoriesFor path depth = .ok after) : SameFiles tree after := by
  -- A directory that stands there already changes nothing, and neither does a new one.
  have hmade : ∀ {first last : FileTree} {path : String} {fault : FileFault},
      (if first.isDirectory path then Except.ok first else .error fault) = .ok last →
      SameFiles first last := by
    intro first last path fault h
    split at h
    · cases h
      exact .refl first
    · cases h
  induction depth generalizing tree after path with
  | zero =>
    cases h
    exact .refl tree
  | succ depth ih =>
    rw [createDirectoriesFor] at h
    split at h
    · cases h
      exact .refl tree
    · split at h
      · next created hcreate =>
        cases h
        exact sameFiles_createDirectory hcreate
      · cases hparent : Path.parent? path with
        | none => rw [hparent] at h; cases h
        | some parent =>
          rw [hparent] at h
          cases hdeep : tree.createDirectoriesFor parent depth with
          | error fault => simp [hdeep, bind, Except.bind] at h
          | ok middle =>
            simp only [hdeep, bind, Except.bind] at h
            refine (ih hdeep).trans ?_
            split at h
            · next created hcreate =>
              cases h
              exact sameFiles_createDirectory hcreate
            · exact hmade h
      · exact hmade h

/-- **New directories leave all files as they are.** -/
theorem sameFiles_createDirectories {tree after : FileTree} {path : String}
    (h : tree.createDirectories path = .ok after) : SameFiles tree after :=
  sameFiles_createDirectoriesFor h

theorem fileAt?_put {tree : FileTree} {place other : Place} (content : FileContent)
    (hne : keyOf other ≠ keyOf place) : (tree.put place content).fileAt? other = tree.fileAt? other := by
  unfold fileAt? entryAt? put
  by_cases hroot : other.isEmpty
  · rw [if_pos hroot, if_pos hroot]
  · rw [if_neg hroot, if_neg hroot, Dictionary.get?_insert, if_neg (Ne.symm hne)]

/-- A write leaves all files at other places as they are, however it ends. -/
theorem fileAt?_write {tree after : FileTree} {path text : String} {found : Except FileFault Unit}
    (h : tree.write path text = (found, after)) {place : Place}
    (hne : keyOf place ≠ keyOf (placeOf tree.workingDirectory path)) :
    after.fileAt? place = tree.fileAt? place := by
  have hwrote := tree.wrote_write path text
  rw [h] at hwrote
  cases hwrote with
  | refused => rfl
  | whole way => exact fileAt?_put _ (resolve_eq_placeOf way ▸ hne)
  | cut way => exact fileAt?_put _ (resolve_eq_placeOf way ▸ hne)

/-- Where a file stands is not the root. -/
theorem isEmpty_of_entryAt? {tree : FileTree} {place : Place} {content : FileContent} {stamp : Nat}
    (h : tree.entryAt? place = some (.file content stamp)) : place.isEmpty = false := by
  unfold entryAt? at h
  cases hroot : place.isEmpty with
  | false => rfl
  | true => simp [hroot] at h

theorem fileAt?_of_entryAt? {tree : FileTree} {place : Place} {content : FileContent} {stamp : Nat}
    (h : tree.entryAt? place = some (.file content stamp)) :
    tree.fileAt? place = some (content, stamp) := by
  unfold fileAt?
  rw [h]

theorem entryAt?_of_fileAt? {tree : FileTree} {place : Place} {content : FileContent} {stamp : Nat}
    (h : tree.fileAt? place = some (content, stamp)) :
    tree.entryAt? place = some (.file content stamp) := by
  unfold fileAt? at h
  split at h
  · next hentry =>
    cases h
    exact hentry
  · cases h

/-- At two places with one key stands the same. -/
theorem entryAt?_of_keyOf_eq (tree : FileTree) {first second : Place}
    (hfirst : first.isEmpty = false) (hsecond : second.isEmpty = false)
    (h : keyOf first = keyOf second) : tree.entryAt? first = tree.entryAt? second := by
  unfold entryAt?
  rw [hfirst, hsecond, h]

end Phrasebook.FileTree
