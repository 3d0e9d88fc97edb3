import Mathlib.Data.List.Perm.Subperm
import Phrasebook.Proofs.SourceFiles
import Phrasebook.Proofs.WrittenOutputs

/-!
# Growing file trees

Work on a project adds directories and files and writes files anew, but takes nothing away. What
the included paths stand for only becomes more then, whatever patterns they are, and so do the
source files.

Results:
* `FileTree.Grows`: the relation, and which steps of work are of this kind.
* `Glob.Expansion.mem_enterFor_of_grows`: expanded patterns become more, in the tree and in the
  number of steps.
* `SourceScope.mem_files_of_grows`: source files stay source files.
-/

namespace Phrasebook

namespace FileTree

/-- The entry is a directory. -/
def entryIsDirectory : FileEntry → Bool
  | .directory => true
  | .file _ _ => false

/-- Directories stay directories and files stay files, though what they hold may change. -/
structure Grows (before after : FileTree) : Prop where
  workingDirectory : after.workingDirectory = before.workingDirectory
  entries : ∀ key entry, before.entries.get? key = some entry →
    ∃ entryAfter, after.entries.get? key = some entryAfter
      ∧ entryIsDirectory entryAfter = entryIsDirectory entry

namespace Grows

variable {before middle after : FileTree} {path : String}

theorem refl (tree : FileTree) : Grows tree tree := ⟨rfl, fun _ entry h => ⟨entry, h, rfl⟩⟩

theorem trans (first : Grows before middle) (second : Grows middle after) : Grows before after where
  workingDirectory := second.workingDirectory.trans first.workingDirectory
  entries key entry h := by
    obtain ⟨entryMiddle, hmiddle, hsame⟩ := first.entries key entry h
    obtain ⟨entryAfter, hafter, hsameAfter⟩ := second.entries key entryMiddle hmiddle
    exact ⟨entryAfter, hafter, hsameAfter.trans hsame⟩

/-! ## Looking -/

theorem entryAt? (h : Grows before after) {place : Place} {entry : FileEntry}
    (hentry : before.entryAt? place = some entry) :
    ∃ entryAfter, after.entryAt? place = some entryAfter
      ∧ entryIsDirectory entryAfter = entryIsDirectory entry := by
  unfold FileTree.entryAt? at hentry ⊢
  by_cases hroot : place.isEmpty
  · rw [if_pos hroot] at hentry ⊢
    exact ⟨entry, hentry, rfl⟩
  · rw [if_neg hroot] at hentry ⊢
    exact h.entries _ entry hentry

theorem entryAt?_directory (h : Grows before after) {place : Place}
    (hentry : before.entryAt? place = some .directory) :
    after.entryAt? place = some .directory := by
  obtain ⟨entry, hafter, hsame⟩ := h.entryAt? hentry
  cases entry with
  | directory => exact hafter
  | file => cases hsame

/-- A way that is there stays there. -/
theorem follow (h : Grows before after) {place result : Place} {segments : List String}
    (hfollow : before.follow place segments = .ok result) :
    after.follow place segments = .ok result := by
  induction segments generalizing place with
  | nil => exact hfollow
  | cons segment rest ih =>
    obtain ⟨hentry, hname, hrest⟩ := follow_cons_eq_ok_iff.1 hfollow
    exact follow_cons_eq_ok_iff.2 ⟨h.entryAt?_directory hentry, hname, ih hrest⟩

theorem resolve (h : Grows before after) {place : Place}
    (hresolve : before.resolve path = .ok place) : after.resolve path = .ok place := by
  obtain ⟨hnull, hempty, hlong, hfollow⟩ := resolve_eq_ok_iff.1 hresolve
  rw [← h.workingDirectory] at hfollow
  exact resolve_eq_ok_iff.2 ⟨hnull, hempty, hlong, h.follow hfollow⟩

/-- **What is found stays**, a directory or a file as it was. -/
theorem find (h : Grows before after) {place : Place} {entry : FileEntry}
    (hfind : before.find path = .ok (place, entry)) :
    ∃ entryAfter, after.find path = .ok (place, entryAfter)
      ∧ entryIsDirectory entryAfter = entryIsDirectory entry := by
  unfold FileTree.find at hfind ⊢
  cases hresolve : before.resolve path with
  | error fault =>
    rw [hresolve] at hfind
    cases hfind
  | ok found =>
    cases hentry : before.entryAt? found with
    | none => simp [hresolve, bind, Except.bind, hentry] at hfind
    | some present =>
      simp only [hresolve, bind, Except.bind, hentry, Except.ok.injEq, Prod.mk.injEq] at hfind
      obtain ⟨rfl, rfl⟩ := hfind
      obtain ⟨entryAfter, hafter, hsame⟩ := h.entryAt? hentry
      exact ⟨entryAfter, by simp [h.resolve hresolve, bind, Except.bind, hafter], hsame⟩

theorem contains (h : Grows before after) (hcontains : before.contains path = true) :
    after.contains path = true := by
  unfold FileTree.contains at hcontains ⊢
  obtain ⟨entry, hentry⟩ := Option.isSome_iff_exists.1 hcontains
  obtain ⟨place, hresolve, hplace⟩ := entry?_eq_some_iff.1 hentry
  obtain ⟨entryAfter, hafter, -⟩ := h.entryAt? hplace
  rw [entry?_eq_some_iff.2 ⟨place, h.resolve hresolve, hafter⟩]
  rfl

theorem isDirectory (h : Grows before after) (hdirectory : before.isDirectory path = true) :
    after.isDirectory path = true := by
  unfold FileTree.isDirectory at hdirectory ⊢
  rw [beq_iff_eq] at hdirectory ⊢
  obtain ⟨place, hresolve, hplace⟩ := entry?_eq_some_iff.1 hdirectory
  exact entry?_eq_some_iff.2 ⟨place, h.resolve hresolve, h.entryAt?_directory hplace⟩

/-- What stands below a place stays there. -/
theorem below (h : Grows before after) {place names : Place} {entry : FileEntry}
    (hmem : (names, entry) ∈ before.below place) :
    ∃ entryAfter, (names, entryAfter) ∈ after.below place
      ∧ entryIsDirectory entryAfter = entryIsDirectory entry := by
  unfold FileTree.below toList at hmem ⊢
  simp only [List.mem_filterMap, List.mem_map, Prod.exists, Prod.mk.injEq] at hmem ⊢
  obtain ⟨_, _, ⟨key, found, hentry, rfl, rfl⟩, hnames⟩ := hmem
  obtain ⟨entryAfter, hafter, hsame⟩ := h.entries key found (Dictionary.mem_toList.1 hentry)
  split at hnames
  · next hbelow =>
    cases hnames
    exact ⟨entryAfter, ⟨_, _, ⟨key, entryAfter, Dictionary.mem_toList.2 hafter, rfl, rfl⟩,
      by rw [if_pos hbelow]⟩, hsame⟩
  · cases hnames

theorem childNames (h : Grows before after) {place : Place} :
    before.childNames place ⊆ after.childNames place := by
  intro name hmem
  obtain ⟨⟨names, entry⟩, hbelow, hname⟩ := List.mem_filterMap.1 hmem
  obtain ⟨entryAfter, hafter, -⟩ := h.below hbelow
  exact List.mem_filterMap.2 ⟨(names, entryAfter), hafter, hname⟩

/-- A growing tree has no fewer entries. -/
theorem size (h : Grows before after) : before.entries.size ≤ after.entries.size := by
  have hkeys : before.entries.keys ⊆ after.entries.keys := by
    intro key hmem
    obtain ⟨entry, hentry⟩ := Option.isSome_iff_exists.1 (Dictionary.mem_keys.1 hmem)
    obtain ⟨entryAfter, hafter, -⟩ := h.entries key entry hentry
    rw [Dictionary.mem_keys, hafter]
    rfl
  have hlength := (List.Nodup.subperm before.entries.nodup_keys hkeys).length_le
  unfold Dictionary.keys at hlength
  rwa [List.length_map, List.length_map] at hlength

end Grows

/-! ## Steps of work -/

/-- A tree where a text was written has grown. -/
theorem grows_of_readText {before after : FileTree} {path text : String}
    (h : KeepsBut (keyOf (placeOf before.workingDirectory path)) before after)
    (hread : after.readText path = .ok text) : Grows before after := by
  refine ⟨h.workingDirectory, fun key entry hentry => ?_⟩
  by_cases hsame : key = keyOf (placeOf before.workingDirectory path)
  · obtain ⟨place, stamp, hresolve, hplace⟩ := readText_eq_ok_iff.1 hread
    have hkey := resolve_eq_placeOf hresolve
    rw [h.workingDirectory] at hkey
    have hafter : after.entries.get? key = some (.file (.text text) stamp) := by
      have hfile : after.entryAt? place ≠ some .directory := by
        rw [hplace]
        exact nofun
      rw [hsame, ← hkey, ← entryAt?_eq_get? hfile, hplace]
    refine ⟨_, hafter, ?_⟩
    cases entry with
    | file => rfl
    | directory =>
      rw [h.directories key hentry] at hafter
      cases hafter
  · exact ⟨entry, h.others key entry hsame hentry, rfl⟩

end FileTree

namespace Locales

/-- A save makes the tree grow. -/
theorem grows_of_save {locales : Locales} {language : String} {catalog : Catalog} {written : Bool}
    {before after : FileTree}
    (h : (locales.save language catalog).runOn before = (.ok written, after)) :
    before.Grows after :=
  FileTree.grows_of_readText (keepsBut_of_save h) (readText_of_save h)

end Locales

/-- **A reconciliation makes the tree grow.** -/
theorem Reconciliation.grows_of_run {locales : Locales} {rule : Merge} {outcomes : List Outcome}
    {survey : Survey} {before after : FileTree} {reconciliation : Reconciliation}
    (h : (run locales rule outcomes survey).runOn before = (.ok reconciliation, after)) :
    before.Grows after := by
  obtain ⟨source, target, middle, -, -, hsource, htarget, -⟩ := exists_of_run h
  exact (Locales.grows_of_save hsource).trans (Locales.grows_of_save htarget)

/-- A text written below a directory makes the tree grow. -/
theorem FileAction.grows_of_writeBelow {directory path text : String} {before after : FileTree}
    (h : (writeBelow directory path text).runOn before = (.ok (), after)) :
    before.Grows after :=
  FileTree.grows_of_readText (keepsBut_of_writeBelow h) (readText_of_writeBelow h)

/-- **Written outputs make the tree grow.** -/
theorem Desk.grows_of_writeOutputs {directory : String} {outputs : List (String × Rewriting)}
    {before after : Session} {desk deskAfter : Desk}
    (h : HostAction.runOn (writeOutputs directory outputs) before desk
      = (.ok (), after, deskAfter)) : before.files.Grows after.files := by
  induction outputs generalizing before with
  | nil =>
    cases h
    exact .refl _
  | cons output rest ih =>
    obtain ⟨files, hwrite, hrest⟩ := exists_of_writeOutputs_cons h
    exact (FileAction.grows_of_writeBelow hwrite).trans (ih hrest)

/-! ## Expanded patterns -/

namespace Glob.Expansion

variable {before after : FileTree} {only : Bool} {path : String}

theorem mem_accept_of_grows (h : before.Grows after) {found : String}
    (hmem : found ∈ accept ⟨before, only⟩ path) : found ∈ accept ⟨after, only⟩ path := by
  unfold accept at hmem ⊢
  dsimp only at hmem ⊢
  split at hmem
  · cases hmem
  · next hnot =>
    rw [if_neg]
    · exact hmem
    · rw [Bool.and_eq_true, Bool.not_eq_true', not_and, Bool.not_eq_false] at hnot ⊢
      exact fun honly => h.isDirectory (hnot honly)

theorem holds_of_grows (h : before.Grows after) {directory part : String}
    (hholds : holds ⟨before, only⟩ directory part path = true) :
    holds ⟨after, only⟩ directory part path = true := by
  unfold holds at hholds ⊢
  split at hholds
  · next hspecial =>
    rw [if_pos hspecial]
    exact h.isDirectory hholds
  · next hspecial =>
    rw [if_neg hspecial]
    exact h.contains hholds

theorem children_subset_of_grows (h : before.Grows after) (directory : String) :
    children ⟨before, only⟩ directory ⊆ children ⟨after, only⟩ directory := by
  intro child hmem
  unfold children at hmem ⊢
  dsimp only at hmem ⊢
  cases hresolve : before.resolve directory with
  | error fault =>
    rw [hresolve] at hmem
    cases hmem
  | ok place =>
    rw [hresolve] at hmem
    rw [h.resolve hresolve]
    exact List.map_subset _ h.childNames hmem

variable {enter enterAfter : List Pattern → String → List String}

theorem mem_matchName_of_grows (h : before.Grows after)
    (henter : ∀ parts path, enter parts path ⊆ enterAfter parts path) {parts : List Pattern}
    {found : String} (hmem : found ∈ matchName ⟨before, only⟩ enter parts path) :
    found ∈ matchName ⟨after, only⟩ enterAfter parts path := by
  unfold matchName at hmem ⊢
  split at hmem
  · split at hmem
    · next haccepts =>
      rw [if_pos haccepts]
      split at hmem
      · next hempty =>
        rw [if_pos hempty]
        exact mem_accept_of_grows h hmem
      · next hempty =>
        rw [if_neg hempty]
        exact henter _ _ hmem
    · cases hmem
  · cases hmem

theorem mem_visit_of_grows (h : before.Grows after)
    (henter : ∀ parts path, enter parts path ⊆ enterAfter parts path) {parts : List Pattern}
    {found : String} (hmem : found ∈ visit ⟨before, only⟩ enter parts path) :
    found ∈ visit ⟨after, only⟩ enterAfter parts path := by
  cases parts with
  | nil => cases hmem
  | cons part rest =>
    unfold visit at hmem ⊢
    dsimp only at hmem ⊢
    split at hmem
    · next hrecursive =>
      rw [if_pos hrecursive]
      split at hmem
      · next hdirectory =>
        rw [if_pos (h.isDirectory hdirectory)]
        refine List.mem_append.2 ((List.mem_append.1 hmem).imp (henter _ _ ·) fun hlater => ?_)
        split at hlater
        · next hempty => rwa [if_pos hempty]
        · next hempty =>
          rw [if_neg hempty]
          exact mem_matchName_of_grows h henter hlater
      · split at hmem
        · cases hmem
        · next hempty =>
          -- A path that became a directory is still matched by its name.
          have hmatch := mem_matchName_of_grows h henter hmem
          rw [if_neg hempty, if_neg hempty]
          split
          · exact List.mem_append_right _ hmatch
          · exact hmatch
    · next hrecursive =>
      rw [if_neg hrecursive]
      exact mem_matchName_of_grows h henter hmem

/-- **What a pattern is expanded to becomes more**, when the tree grows and with more steps. -/
theorem mem_enterFor_of_grows (h : before.Grows after) {depth depthAfter : Nat}
    (hdepth : depth ≤ depthAfter) {parts : List Pattern} {directory found : String}
    (hmem : found ∈ enterFor ⟨before, only⟩ depth parts directory) :
    found ∈ enterFor ⟨after, only⟩ depthAfter parts directory := by
  induction depth generalizing depthAfter parts directory found with
  | zero => cases hmem
  | succ depth ih =>
    obtain ⟨deeper, rfl⟩ : ∃ deeper, depthAfter = deeper + 1 := ⟨depthAfter - 1, by omega⟩
    have henter : ∀ parts path, enterFor ⟨before, only⟩ depth parts path
        ⊆ enterFor ⟨after, only⟩ deeper parts path :=
      fun parts path found hfound => ih (by omega) hfound
    cases parts with
    | nil => cases hmem
    | cons part rest =>
      have honward : ∀ {path found},
          found ∈ (if rest.isEmpty then accept ⟨before, only⟩ path
            else enterFor ⟨before, only⟩ depth rest path) →
          found ∈ (if rest.isEmpty then accept ⟨after, only⟩ path
            else enterFor ⟨after, only⟩ deeper rest path) := by
        intro path found hfound
        split at hfound
        · next hempty =>
          rw [if_pos hempty]
          exact mem_accept_of_grows h hfound
        · next hempty =>
          rw [if_neg hempty]
          exact henter _ _ hfound
      rw [enterFor] at hmem ⊢
      dsimp only at hmem ⊢
      cases hliteral : part.literal? with
      | some name =>
        rw [hliteral] at hmem
        dsimp only at hmem ⊢
        split at hmem
        · next hholds =>
          rw [if_pos (holds_of_grows h hholds)]
          exact honward hmem
        · cases hmem
      | none =>
        rw [hliteral] at hmem
        dsimp only at hmem ⊢
        split at hmem
        · next hdirectory =>
          rw [if_pos (h.isDirectory hdirectory)]
          refine List.mem_append.2 ((List.mem_append.1 hmem).imp ?_ ?_)
          · intro hvisit
            obtain ⟨child, hchild, hfound⟩ := List.mem_flatMap.1 hvisit
            exact List.mem_flatMap.2 ⟨child, children_subset_of_grows h directory hchild,
              mem_visit_of_grows h henter hfound⟩
          · intro hspecial
            obtain ⟨path, hpath, hfound⟩ := List.mem_flatMap.1 hspecial
            exact List.mem_flatMap.2 ⟨path, hpath, honward hfound⟩
        · cases hmem

end Glob.Expansion

/-- What a text expands to is a fault, or its parts are entered; the tree has no say in that. -/
theorem Glob.exists_expand_eq (text : String) :
    (∃ fault, ∀ tree, expand tree text = .error fault)
      ∨ ∃ only patterns start, ∀ tree, expand tree text
        = .ok (Expansion.enterFor ⟨tree, only⟩ ((patterns.length + 1) * (tree.entries.size + 2))
            patterns start) := by
  unfold expand
  cases Pattern.ofText text with
  | error fault => exact .inl ⟨fault, fun _ => rfl⟩
  | ok whole =>
    dsimp only
    generalize hparts : List.mapM Pattern.ofText (parts _) = found
    cases found with
    | error fault => exact .inl ⟨fault, fun _ => rfl⟩
    | ok patterns => exact .inr ⟨_, patterns, _, fun _ => rfl⟩

/-- **An expanded text** gives more paths in a grown tree. -/
theorem Glob.exists_expand_of_grows {before after : FileTree} (h : before.Grows after)
    {text : String} {found : List String} (hexpand : expand before text = .ok found) :
    ∃ foundAfter, expand after text = .ok foundAfter ∧ found ⊆ foundAfter := by
  rcases exists_expand_eq text with ⟨fault, hfault⟩ | ⟨only, patterns, start, hpaths⟩
  · rw [hfault] at hexpand
    cases hexpand
  · rw [hpaths] at hexpand
    cases hexpand
    exact ⟨_, hpaths after, fun path hmem =>
      Expansion.mem_enterFor_of_grows h
        (Nat.mul_le_mul_left _ (Nat.add_le_add_right h.size 2)) hmem⟩

/-! ## Source files -/

namespace SourceScope

variable {scope : SourceScope} {before after : FileTree}

theorem mem_starts_of_grows (h : before.Grows after) : scope.starts before ⊆ scope.starts after := by
  have hinclusion : ∀ included found, scope.include? before included = .paths found →
      ∃ foundAfter, scope.include? after included = .paths foundAfter ∧ found ⊆ foundAfter := by
    intro included found hfound
    unfold include? at hfound ⊢
    dsimp only at hfound ⊢
    split at hfound
    · next hwild =>
      rw [if_pos hwild]
      cases hexpand : Glob.expand before (Path.join scope.root included) with
      | error fault =>
        rw [hexpand] at hfound
        cases hfound
      | ok paths =>
        rw [hexpand] at hfound
        cases hfound
        obtain ⟨pathsAfter, hafter, hsubset⟩ := Glob.exists_expand_of_grows h hexpand
        exact ⟨pathsAfter, by rw [hafter], hsubset⟩
    · next hwild =>
      rw [if_neg hwild]
      split at hfound
      · next hcontains =>
        rw [if_pos (h.contains hcontains)]
        exact ⟨_, rfl, by cases hfound; exact fun _ hmem => hmem⟩
      · cases hfound
  intro path hmem
  unfold starts inclusions at hmem ⊢
  split at hmem
  · next hempty => rwa [if_pos hempty]
  · next hempty =>
    rw [if_neg hempty]
    obtain ⟨inclusion, hincluded, hpath⟩ := List.mem_flatMap.1 hmem
    obtain ⟨included, hmem, rfl⟩ := List.mem_map.1 hincluded
    split at hpath
    · next found hfound =>
      obtain ⟨foundAfter, hafter, hsubset⟩ := hinclusion included found hfound
      refine List.mem_flatMap.2 ⟨_, List.mem_map_of_mem hmem, ?_⟩
      rw [hafter]
      exact hsubset hpath
    · cases hpath

theorem mem_walk_of_grows (h : before.Grows after) (start : String) :
    scope.walk before start ⊆ scope.walk after start := by
  intro path hmem
  unfold walk at hmem ⊢
  cases hfind : before.find start with
  | error fault =>
    rw [hfind] at hmem
    cases hmem
  | ok found =>
    rcases found with ⟨place, entry⟩
    obtain ⟨entryAfter, hafter, hsame⟩ := h.find hfind
    rw [hfind] at hmem
    rw [hafter]
    cases entry with
    | file =>
      cases entryAfter with
      | file => exact hmem
      | directory => cases hsame
    | directory =>
      cases entryAfter with
      | file => cases hsame
      | directory =>
        dsimp only at hmem ⊢
        split at hmem
        · cases hmem
        · next hvendor =>
          rw [if_neg hvendor]
          obtain ⟨⟨names, below⟩, hbelow, hpath⟩ := List.mem_filterMap.1 hmem
          obtain ⟨belowAfter, hbelowAfter, hsameBelow⟩ := h.below hbelow
          refine List.mem_filterMap.2 ⟨(names, belowAfter), hbelowAfter, ?_⟩
          cases below with
          | directory => cases hpath
          | file =>
            cases belowAfter with
            | directory => cases hsameBelow
            | file => exact hpath

/-- **Source files stay source files** in a growing tree. -/
theorem mem_files_of_grows (h : before.Grows after) {file : String}
    (hmem : file ∈ (scope.files before).keys) : file ∈ (scope.files after).keys := by
  obtain ⟨path, hpath, hrest⟩ := mem_files.1 hmem
  obtain ⟨start, hstart, hwalk⟩ := List.mem_flatMap.1 hpath
  exact mem_files.2 ⟨path, List.mem_flatMap.2
    ⟨start, mem_starts_of_grows h hstart, mem_walk_of_grows h start hwalk⟩, hrest⟩

end SourceScope

end Phrasebook
