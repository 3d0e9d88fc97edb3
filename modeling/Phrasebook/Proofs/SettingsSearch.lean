import Phrasebook.Proofs.PathSteps
import Phrasebook.Settings.Search

/-!
# Settings above a directory

The settings in force in a directory are those of the nearest directory at or above it that has a
settings file, unless a repository lies further down. The search follows the text of a path instead
of the directories: above a path is the path without its last step. The two agree as long as the
last step is the name of an entry. The directory above a step `..` is not the one above the path,
and the paths above one that does not start at the root end at the working directory.

Results:
* `Settings.Governs.unique`: the settings in force are those of one directory.
* `FileTree.Leads.above`: the path above one that leads to a directory leads to a directory.
* `Settings.answers_of_search`: the search is right if it ends within the names at the end of the
  path.
* `Settings.search_eq_none`: otherwise it finds nothing, if the path has no steps upwards.
* `Settings.answers_findFile`: when the settings file that is found is the one in force.
* `Settings.not_answers_findFile`: it is not for all paths.
-/

namespace Phrasebook

/-! ## The settings in force -/

/-- Something with a name stands in the directory at a place. -/
def FileTree.Holds (tree : FileTree) (place : Place) (name : String) : Prop :=
  (tree.entryAt? (place ++ [name])).isSome = true

instance (tree : FileTree) (place : Place) (name : String) : Decidable (tree.Holds place name) :=
  inferInstanceAs (Decidable (_ = true))

namespace Settings

/-- A directory with a settings file at or above a place, with no repository further down on the
way. -/
structure Serves (tree : FileTree) (place directory : Place) : Prop where
  above : directory <+: place
  holds : tree.Holds directory fileName
  unfenced : ∀ between, directory <+: between → between <+: place → between ≠ directory →
    ¬tree.Holds between repositoryName

/-- The nearest of these directories. -/
structure Governs (tree : FileTree) (place directory : Place) : Prop
    extends Serves tree place directory where
  nearest : ∀ other, Serves tree place other → other <+: directory

/-- What a search finds is the settings file in force at a place, or that there is none. -/
def Answers (tree : FileTree) (place : Place) : Option String → Prop
  | none => ∀ directory, ¬Serves tree place directory
  | some path => ∃ directory, Governs tree place directory
    ∧ tree.resolve path = .ok (directory ++ [fileName])

variable {tree : FileTree} {place directory : Place}

/-- **The settings in force are those of one directory.** -/
theorem Governs.unique {other : Place} (h : Governs tree place directory)
    (hother : Governs tree place other) : directory = other :=
  (hother.nearest _ h.toServes).eq_of_length_le (h.nearest _ hother.toServes).length_le

/-- Right answers name the same file. -/
theorem Answers.map_resolve_eq {first second : Option String} (hfirst : Answers tree place first)
    (hsecond : Answers tree place second) :
    first.map tree.resolve = second.map tree.resolve := by
  cases first with
  | none =>
    cases second with
    | none => rfl
    | some path =>
      obtain ⟨directory, hgoverns, -⟩ := hsecond
      exact absurd hgoverns.toServes (hfirst directory)
  | some path =>
    obtain ⟨directory, hgoverns, hresolve⟩ := hfirst
    cases second with
    | none => exact absurd hgoverns.toServes (hsecond directory)
    | some other =>
      obtain ⟨directory', hgoverns', hresolve'⟩ := hsecond
      rw [Option.map_some, Option.map_some, hresolve, hresolve', hgoverns.unique hgoverns']

/-- A settings file where the search starts is in force. -/
theorem governs_self (h : tree.Holds place fileName) : Governs tree place place where
  above := List.prefix_rfl
  holds := h
  unfenced _ hbelow habove hne := absurd (habove.eq_of_length_le hbelow.length_le) hne
  nearest _ h := h.above

/-- In a repository without settings nothing is in force. -/
theorem not_serves_of_repository (hfile : ¬tree.Holds place fileName)
    (hrepository : tree.Holds place repositoryName) : ¬Serves tree place directory := by
  intro h
  refine h.unfenced place h.above List.prefix_rfl ?_ hrepository
  rintro rfl
  exact hfile h.holds

section Concat

variable {name : String} (hfile : ¬tree.Holds (place ++ [name]) fileName)
  (hrepository : ¬tree.Holds (place ++ [name]) repositoryName)
include hfile hrepository

/-- A directory without settings and repository adds nothing to a way. -/
theorem serves_concat_iff :
    Serves tree (place ++ [name]) directory ↔ Serves tree place directory := by
  constructor
  · intro h
    have habove := (List.prefix_concat_iff.1 h.above).resolve_left fun heq => hfile (heq ▸ h.holds)
    exact ⟨habove, h.holds, fun between hbelow hbetween =>
      h.unfenced between hbelow (hbetween.trans (List.prefix_append _ _))⟩
  · intro h
    refine ⟨h.above.trans (List.prefix_append _ _), h.holds, fun between hbelow hbetween hne => ?_⟩
    rcases List.prefix_concat_iff.1 hbetween with rfl | hbetween
    · exact hrepository
    · exact h.unfenced between hbelow hbetween hne

/-- **What such a directory has in force** is what the directory above it has. -/
theorem answers_concat_iff {found : Option String} :
    Answers tree (place ++ [name]) found ↔ Answers tree place found := by
  have hgoverns : ∀ directory,
      Governs tree (place ++ [name]) directory ↔ Governs tree place directory := fun directory =>
    ⟨fun h => ⟨(serves_concat_iff hfile hrepository).1 h.toServes, fun other hother =>
      h.nearest _ ((serves_concat_iff hfile hrepository).2 hother)⟩,
    fun h => ⟨(serves_concat_iff hfile hrepository).2 h.toServes, fun other hother =>
      h.nearest _ ((serves_concat_iff hfile hrepository).1 hother)⟩⟩
  cases found <;> simp only [Answers, hgoverns, serves_concat_iff hfile hrepository]

end Concat

end Settings

/-! ## Paths to directories -/

namespace FileTree

variable {tree : FileTree} {path : String} {place : Place}

theorem follow_append_eq_ok_iff {place result : Place} {front back : List String} :
    tree.follow place (front ++ back) = .ok result
      ↔ ∃ middle, tree.follow place front = .ok middle ∧ tree.follow middle back = .ok result := by
  induction front generalizing place with
  | nil => simp [follow]
  | cons segment rest ih =>
    rw [List.cons_append, follow_cons_eq_ok_iff, ih]
    constructor
    · rintro ⟨hentry, hname, middle, hmiddle, hback⟩
      exact ⟨middle, follow_cons_eq_ok_iff.2 ⟨hentry, hname, hmiddle⟩, hback⟩
    · rintro ⟨middle, hmiddle, hback⟩
      obtain ⟨hentry, hname, hrest⟩ := follow_cons_eq_ok_iff.1 hmiddle
      exact ⟨hentry, hname, middle, hrest, hback⟩

/-- Segments that name nothing can be followed from a directory. -/
theorem follow_of_isIdle {segments : List String} (hplace : tree.entryAt? place = some .directory)
    (h : ∀ segment ∈ segments, Path.isIdle segment = true) :
    tree.follow place segments = .ok place := by
  induction segments with
  | nil => rfl
  | cons segment rest ih =>
    have hsegment := h segment List.mem_cons_self
    rw [follow_cons_eq_ok_iff, stepTo, if_pos hsegment]
    exact ⟨hplace, .inl hsegment, ih fun other hother => h other (List.mem_cons_of_mem _ hother)⟩

/-- Segments that name nothing add nothing to a way. -/
theorem follow_of_follow_append {start : Place} {front idle : List String}
    (hidle : ∀ segment ∈ idle, Path.isIdle segment = true)
    (h : tree.follow start (front ++ idle) = .ok place) : tree.follow start front = .ok place := by
  obtain ⟨middle, hmiddle, hfollow⟩ := follow_append_eq_ok_iff.1 h
  rw [follow_eq_foldl hfollow, foldl_stepTo_of_isIdle middle hidle]
  exact hmiddle

/-- The path leads to the directory at a place, and leaves room for the name of a settings file. The
empty path leads to the working directory here. -/
structure Leads (tree : FileTree) (path : String) (place : Place) : Prop where
  plain : path.toList.contains '\x00' = false
  short : path.utf8ByteSize + 1 + Settings.fileName.utf8ByteSize ≤ pathLimit
  follow : tree.follow (if Path.isAbsolute path then [] else tree.workingDirectory)
    (Path.segments path) = .ok place
  directory : tree.entryAt? place = some .directory

theorem Leads.eq_placeOf (h : tree.Leads path place) :
    place = placeOf tree.workingDirectory path :=
  follow_eq_foldl h.follow

/-- A path that is found to be a directory leads there. -/
theorem leads_of_find (h : tree.find path = .ok (place, .directory))
    (hshort : path.utf8ByteSize + 1 + Settings.fileName.utf8ByteSize ≤ pathLimit) :
    tree.Leads path place := by
  unfold find at h
  cases hresolve : tree.resolve path with
  | error fault => simp [hresolve, bind, Except.bind] at h
  | ok found =>
    cases hentry : tree.entryAt? found with
    | none => simp [hresolve, hentry, bind, Except.bind] at h
    | some entry =>
      simp only [hresolve, hentry, bind, Except.bind, Except.ok.injEq, Prod.mk.injEq] at h
      obtain ⟨rfl, rfl⟩ := h
      obtain ⟨hnull, -, -, hfollow⟩ := resolve_eq_ok_iff.1 hresolve
      exact ⟨hnull, hshort, hfollow, hentry⟩

/-- **The path above one that leads to a directory leads to a directory.** -/
theorem Leads.above {parent : String} (h : tree.Leads path place)
    (hparent : Path.parent? path = some parent) : ∃ above, tree.Leads parent above := by
  rcases Path.parent?_cases path with ⟨hnone, -⟩ | ⟨hempty, habsolute, -⟩ | ⟨_, hsome, habove⟩
  · rw [hnone] at hparent
    cases hparent
  · rw [hempty] at hparent
    cases hparent
    obtain ⟨first, rest, hsegments⟩ := List.exists_cons_of_ne_nil (Path.segments_ne_nil path)
    have hfollow := h.follow
    rw [habsolute, hsegments] at hfollow
    have hentry := (follow_cons_eq_ok_iff.1 hfollow).1
    exact ⟨tree.workingDirectory, by decide, by decide,
      follow_of_isIdle hentry (show ∀ segment ∈ [""], Path.isIdle segment = true by decide), hentry⟩
  · rw [hsome] at hparent
    cases hparent
    obtain ⟨front, slash, gap, last, tail, -, hsegments, hpath, hidle, -⟩ := habove.front
    have hfollow := h.follow
    rw [hpath, ← List.append_assoc] at hfollow
    obtain ⟨middle, hmiddle, hlast⟩ := follow_append_eq_ok_iff.1 hfollow
    have hentry := (follow_cons_eq_ok_iff.1 hlast).1
    have hfront := follow_of_follow_append
      (fun segment hsegment => hidle segment (by simp [hsegment])) hmiddle
    obtain ⟨rest, hrest⟩ := habove.starts
    have htext : path = parent ++ String.ofList rest := by
      rw [← String.toList_inj, ← hrest]
      simp
    refine ⟨middle, ?_, ?_, ?_, hentry⟩
    · have hplain := h.plain
      rw [← hrest] at hplain
      simp_all
    · have hshort := h.short
      rw [htext, String.utf8ByteSize_append] at hshort
      omega
    · rw [hsegments, habove.isAbsolute]
      exact follow_append_eq_ok_iff.2 ⟨middle, hfront, follow_of_isIdle hentry
        fun segment hsegment => hidle segment (by simp [hsegment])⟩

/-- A short name of an entry. -/
structure IsName (name : String) : Prop where
  segments : Path.segments name = [name]
  isIdle : Path.isIdle name = false
  ne_parent : name ≠ ".."
  plain : name.toList.contains '\x00' = false
  short : name.utf8ByteSize ≤ Settings.fileName.utf8ByteSize

theorem isName_fileName : IsName Settings.fileName :=
  ⟨by decide, by decide, by decide, by decide, by decide⟩

theorem isName_repositoryName : IsName Settings.repositoryName :=
  ⟨by decide, by decide, by decide, by decide, by decide⟩

/-- **A name seen from a directory leads to its place there.** -/
theorem Leads.resolve_join {name : String} (h : tree.Leads path place) (hname : IsName name) :
    tree.resolve (Path.join path name) = .ok (place ++ [name]) := by
  have hrelative : Path.isAbsolute name = false :=
    Bool.not_eq_true _ ▸ fun habsolute => ((Path.isAbsolute_iff hname.segments).1 habsolute).2 rfl
  have hne : name ≠ "" := by
    rintro rfl
    cases hname.isIdle
  -- The name can be followed from the directory.
  have hstep : tree.follow place [name] = .ok (place ++ [name]) := by
    have hshort : name.utf8ByteSize ≤ nameLimit := hname.short.trans (by decide)
    rw [follow_cons_eq_ok_iff, stepTo, if_neg (by simp [hname.isIdle]), if_neg hname.ne_parent]
    exact ⟨h.directory, .inr (.inr hshort), rfl⟩
  have hfollow : tree.follow (if Path.isAbsolute (Path.join path name) then []
      else tree.workingDirectory) (Path.segments (Path.join path name)) = .ok (place ++ [name]) := by
    by_cases hempty : path = ""
    · have hplace := h.eq_placeOf
      rw [hempty, show placeOf tree.workingDirectory "" = tree.workingDirectory from rfl] at hplace
      rw [hempty, Path.join_empty, hrelative, hname.segments, if_neg Bool.false_ne_true]
      exact hplace ▸ hstep
    · obtain ⟨front, idle, hpath, hjoin, -, hidle⟩ := Path.exists_segments_join hempty hrelative
      have hplace := h.follow
      rw [hpath] at hplace
      rw [Path.isAbsolute_join hempty hrelative, hjoin, hname.segments]
      exact follow_append_eq_ok_iff.2 ⟨place, follow_of_follow_append hidle hplace, hstep⟩
  have hplain := h.plain
  have hshort := h.short
  have hnamePlain := hname.plain
  have hnameShort := hname.short
  refine resolve_eq_ok_iff.2 ⟨?_, ?_, ?_, hfollow⟩
  · rcases Path.join_eq_append path hrelative with hjoin | hjoin <;> rw [hjoin] <;> simp_all
  · rcases Path.join_eq_append path hrelative with hjoin | hjoin <;> rw [hjoin] <;> simp [hne]
  · have hslash : "/".utf8ByteSize = 1 := by decide
    rcases Path.join_eq_append path hrelative with hjoin | hjoin <;> rw [hjoin] <;>
      simp only [String.utf8ByteSize_append, hslash] <;> omega

/-- Whether something stands at a name seen from a directory. -/
theorem Leads.contains_join_iff {name : String} (h : tree.Leads path place) (hname : IsName name) :
    tree.contains (Path.join path name) = true ↔ tree.Holds place name := by
  unfold contains entry? find Holds
  rw [h.resolve_join hname]
  cases hentry : tree.entryAt? (place ++ [name]) <;>
    simp [hentry, bind, Except.bind, Except.toOption]

end FileTree

namespace Settings

variable {tree : FileTree} {path : String} {place : Place} {depth : Nat}

/-! ## Searching upwards -/

/-- The paths that are searched start with the path itself. -/
theorem upwardFor_eq (hdepth : (Path.steps path).length ≤ depth) :
    upwardFor path depth = path :: (match Path.parent? path with
      | none => []
      | some parent => upwardFor parent (depth - 1)) := by
  cases depth with
  | zero =>
    cases hparent : Path.parent? path with
    | none => rfl
    | some parent =>
      obtain ⟨step, -, hsteps⟩ := Path.steps_of_parent? hparent
      rw [hsteps] at hdepth
      simp at hdepth
  | succ depth =>
    rw [upwardFor]
    cases Path.parent? path <;> rfl

/-- The place has a settings file, or ends a search without one. -/
def Ends (tree : FileTree) (place : Place) : Prop :=
  tree.Holds place fileName ∨ tree.Holds place repositoryName

/-- A search that ends in its first directory is right. -/
theorem answers_of_ends (h : tree.Leads path place) (hdepth : (Path.steps path).length ≤ depth)
    (hends : Ends tree place) : Answers tree place (searchIn tree (upwardFor path depth)) := by
  have hfile := h.contains_join_iff FileTree.isName_fileName
  rw [upwardFor_eq hdepth, searchIn]
  by_cases hholds : tree.Holds place fileName
  · rw [if_pos (hfile.2 hholds)]
    exact ⟨place, governs_self hholds, h.resolve_join FileTree.isName_fileName⟩
  · have hrepository := hends.resolve_left hholds
    rw [if_neg (mt hfile.1 hholds),
      if_pos ((h.contains_join_iff FileTree.isName_repositoryName).2 hrepository)]
    exact fun directory => not_serves_of_repository hholds hrepository

/-- **One step of a search**: it goes on above a directory that does not end it. -/
theorem search_eq (h : tree.Leads path place) (hdepth : (Path.steps path).length ≤ depth)
    (hends : ¬Ends tree place) :
    Path.parent? path = none ∧ searchIn tree (upwardFor path depth) = none
      ∨ ∃ parent above step later, tree.Leads parent above ∧ step ≠ .root
        ∧ Path.steps path = Path.steps parent ++ [step] ∧ place = FileTree.placeAfter above step
        ∧ later < depth ∧ (Path.steps parent).length ≤ later
        ∧ searchIn tree (upwardFor path depth) = searchIn tree (upwardFor parent later) := by
  obtain ⟨hfile, hrepository⟩ := not_or.1 hends
  rw [upwardFor_eq hdepth, searchIn,
    if_neg (mt (h.contains_join_iff FileTree.isName_fileName).1 hfile),
    if_neg (mt (h.contains_join_iff FileTree.isName_repositoryName).1 hrepository)]
  cases hparent : Path.parent? path with
  | none => exact .inl ⟨rfl, rfl⟩
  | some parent =>
    obtain ⟨above, habove⟩ := h.above hparent
    obtain ⟨step, hroot, hsteps⟩ := Path.steps_of_parent? hparent
    have hlength := congrArg List.length hsteps
    rw [List.length_append, List.length_singleton] at hlength
    refine .inr ⟨parent, above, step, depth - 1, habove, hroot, hsteps, ?_, by omega, by omega, rfl⟩
    rw [h.eq_placeOf, habove.eq_placeOf, FileTree.placeOf_eq_foldl, FileTree.placeOf_eq_foldl,
      hsteps, List.foldl_append]
    rfl

/-- **The search is right if it ends within the names at the end of the path**: the steps above these
names may lead anywhere. -/
theorem answers_of_search {above : Place} {names : List String} (h : tree.Leads path place)
    (hdepth : (Path.steps path).length ≤ depth) (hplace : place = above ++ names)
    (hnames : names.map PathStep.entry <:+ Path.steps path) (hends : Ends tree above) :
    Answers tree place (searchIn tree (upwardFor path depth)) := by
  -- The path above has the names but the last, and its directory the same settings in force.
  induction names using List.reverseRecOn generalizing path place depth with
  | nil =>
    rw [List.append_nil] at hplace
    exact answers_of_ends h hdepth (hplace ▸ hends)
  | append_singleton names name ih =>
    by_cases hhere : Ends tree place
    · exact answers_of_ends h hdepth hhere
    · obtain ⟨front, hfront⟩ := hnames
      rw [List.map_append, List.map_singleton, ← List.append_assoc] at hfront
      rcases search_eq h hdepth hhere with ⟨hnone, -⟩
        | ⟨parent, outer, step, later, hleads, -, hsteps, houter, -, hlater, hsearch⟩
      · rcases Path.steps_of_parent?_eq_none hnone with hsteps | hsteps <;> rw [hsteps] at hfront
        · simp at hfront
        · cases (List.append_inj' (show _ = [] ++ [PathStep.root] from hfront) rfl).2
      · rw [hsteps] at hfront
        obtain ⟨hparent, hstep⟩ := List.append_inj' hfront rfl
        cases hstep
        have hname : outer ++ [name] = above ++ names ++ [name] := by
          rw [← List.append_assoc, houter] at hplace
          exact hplace
        have hrest := ih hleads hlater (List.append_inj' hname rfl).1 ⟨front, hparent⟩
        obtain ⟨hfile, hrepository⟩ := not_or.1 hhere
        rw [houter] at hfile hrepository
        rw [hsearch, houter]
        exact (answers_concat_iff hfile hrepository).2 hrest

/-- **A search that does not end within these names** finds nothing, if the path has no steps
upwards. -/
theorem search_eq_none (h : tree.Leads path place) (hdepth : (Path.steps path).length ≤ depth)
    (hup : PathStep.parent ∉ Path.steps path)
    (hends : ∀ above names, place = above ++ names →
      names.map PathStep.entry <:+ Path.steps path → ¬Ends tree above) :
    searchIn tree (upwardFor path depth) = none := by
  induction depth using Nat.strong_induction_on generalizing path place with
  | _ depth ih =>
    rcases search_eq h hdepth (hends place [] (List.append_nil _).symm List.nil_suffix) with
      ⟨-, hsearch⟩
      | ⟨parent, above, step, later, hleads, hroot, hsteps, hplace, hless, hlater, hsearch⟩
    · exact hsearch
    · rw [hsearch]
      rw [hsteps, List.mem_append, not_or] at hup
      refine ih later hless hleads hlater hup.1 fun outer names houter hnames => ?_
      cases step with
      | root => exact absurd rfl hroot
      | parent => exact absurd List.mem_cons_self hup.2
      | current =>
        -- Nothing comes before this step, so the path above is the working directory too.
        rw [Path.eq_nil_of_steps_eq_concat_current hsteps, List.suffix_nil,
          List.map_eq_nil_iff] at hnames
        refine hends outer [] ?_ List.nil_suffix
        rw [hplace, ← hnames]
        exact houter
      | entry name =>
        obtain ⟨front, hfront⟩ := hnames
        refine hends outer (names ++ [name]) ?_ ⟨front, ?_⟩
        · rw [hplace, houter, ← List.append_assoc]
          rfl
        · rw [hsteps, ← hfront, List.map_append, List.append_assoc]
          rfl

/-! ## Which searches are right -/

/-- The names at the end of a path lead to its place from a directory that ends a search. -/
def Settled (tree : FileTree) (path : String) (place : Place) : Prop :=
  ∃ above names, place = above ++ names ∧ names.map PathStep.entry <:+ Path.steps path
    ∧ Ends tree above

/-- A path from the root without steps upwards ends with all names of its place. -/
theorem suffix_steps_of_isAbsolute (workingDirectory : Place)
    (habsolute : Path.isAbsolute path = true) (hup : PathStep.parent ∉ Path.steps path) :
    (FileTree.placeOf workingDirectory path).map PathStep.entry <:+ Path.steps path := by
  obtain ⟨later, hlater, ⟨-, hsteps⟩ | ⟨hrelative, -⟩⟩ := Path.exists_steps_eq path
  · rw [hsteps, List.mem_cons, not_or] at hup
    obtain ⟨names, rfl⟩ := Path.exists_map_entry hlater hup.2
    have hplace : FileTree.placeOf workingDirectory path = names := by
      rw [FileTree.placeOf_eq_foldl, hsteps, List.foldl_cons, FileTree.foldl_placeAfter_map_entry]
      rfl
    rw [hplace, hsteps]
    exact List.suffix_cons _ _
  · rw [habsolute] at hrelative
    cases hrelative

variable {start : String}

theorem answers_of_settled (h : tree.Leads start place) (hsettled : Settled tree start place) :
    Answers tree place (findFile tree start) := by
  obtain ⟨above, names, hplace, hnames, hends⟩ := hsettled
  exact answers_of_search h (Path.length_steps_le start) hplace hnames hends

theorem findFile_eq_none (h : tree.Leads start place) (hup : PathStep.parent ∉ Path.steps start)
    (hsettled : ¬Settled tree start place) : findFile tree start = none :=
  search_eq_none h (Path.length_steps_le start) hup fun above names hplace hnames hends =>
    hsettled ⟨above, names, hplace, hnames, hends⟩

/-- **A search along a path from the root without steps upwards is right**: it ends in a directory
above the place or comes to the root. -/
theorem answers_of_isAbsolute (h : tree.Leads start place)
    (habsolute : Path.isAbsolute start = true) (hup : PathStep.parent ∉ Path.steps start) :
    Answers tree place (findFile tree start) := by
  by_cases hsettled : Settled tree start place
  · exact answers_of_settled h hsettled
  · rw [findFile_eq_none h hup hsettled]
    intro directory hserves
    obtain ⟨names, hnames⟩ := hserves.above
    have hsuffix := suffix_steps_of_isAbsolute tree.workingDirectory habsolute hup
    rw [← h.eq_placeOf, ← hnames, List.map_append] at hsuffix
    exact hsettled ⟨directory, names, hnames.symm, (List.suffix_append _ _).trans hsuffix,
      .inl hserves.holds⟩

/-- A search may start at a path: it leads to the directory at a place, and leaves room for the name
of the settings file. -/
structure StartsAt (tree : FileTree) (start : String) (place : Place) : Prop where
  found : tree.find start = .ok (place, .directory)
  short : start.utf8ByteSize + 1 + fileName.utf8ByteSize ≤ FileTree.pathLimit

/-- **When the settings file that is found is the one in force.** Always, if the names at the end of
the path lead to its place from a directory with a settings file or a repository. Along a path without
steps upwards also if it starts at the root, or nothing is in force, and in no other case. So such
paths name the same file as one from the root. -/
theorem answers_findFile (h : StartsAt tree start place) :
    (Settled tree start place → Answers tree place (findFile tree start))
    ∧ (PathStep.parent ∉ Path.steps start →
      (Answers tree place (findFile tree start) ↔ Settled tree start place
        ∨ Path.isAbsolute start = true ∨ ∀ directory, ¬Serves tree place directory))
    ∧ ∀ other, StartsAt tree other place → Path.isAbsolute other = true →
      PathStep.parent ∉ Path.steps other → Settled tree start place →
      (findFile tree start).map tree.resolve = (findFile tree other).map tree.resolve := by
  have hleads := FileTree.leads_of_find h.found h.short
  refine ⟨answers_of_settled hleads, fun hup => ⟨fun hanswers => ?_, ?_⟩, ?_⟩
  · by_cases hsettled : Settled tree start place
    · exact .inl hsettled
    · rw [findFile_eq_none hleads hup hsettled] at hanswers
      exact .inr (.inr hanswers)
  · rintro (hsettled | habsolute | hnone)
    · exact answers_of_settled hleads hsettled
    · exact answers_of_isAbsolute hleads habsolute hup
    · by_cases hsettled : Settled tree start place
      · exact answers_of_settled hleads hsettled
      · rw [findFile_eq_none hleads hup hsettled]
        exact hnone
  · intro other hother habsolute hup hsettled
    exact (answers_of_settled hleads hsettled).map_resolve_eq
      (answers_of_isAbsolute (FileTree.leads_of_find hother.found hother.short) habsolute hup)

/-- The working directory lies below settings, and another directory below it. -/
def smallNested : FileTree :=
  ⟨Dictionary.ofList [("/p", .directory), ("/p/.transmarkrc.json", .file (.text "") 0),
    ("/p/sub", .directory), ("/p/sub/deep", .directory)], ["p", "sub"], 1, []⟩

/-- The settings above the working directory are found along a path whose last names lead there. -/
theorem answers_small_findFile :
    Answers smallNested ["p", "sub", "deep"] (some "../.transmarkrc.json")
      ∧ (some "../.transmarkrc.json").map smallNested.resolve
        = (findFile smallNested "/p/sub/deep").map smallNested.resolve := by
  have hsettled : Settled smallNested "../sub/deep" ["p", "sub", "deep"] :=
    ⟨["p"], ["sub", "deep"], rfl, by decide, .inl (by decide +kernel)⟩
  have hfound : findFile smallNested "../sub/deep" = some "../.transmarkrc.json" := by
    decide +kernel
  have hstarts : StartsAt smallNested "../sub/deep" ["p", "sub", "deep"] :=
    ⟨by decide +kernel, by decide⟩
  obtain ⟨hanswers, -, hother⟩ := answers_findFile hstarts
  rw [hfound] at hanswers hother
  exact ⟨hanswers hsettled,
    hother "/p/sub/deep" ⟨by decide +kernel, by decide⟩ (by decide) (by decide) hsettled⟩

/-- **What is found is not always in force**: above the working directory the search does not look,
if the path does not start at the root. -/
theorem not_answers_findFile :
    ¬∀ (tree : FileTree) (start : String) (place : Place), StartsAt tree start place →
      Answers tree place (findFile tree start) := by
  intro hall
  have hanswers := hall smallNested "." ["p", "sub"] ⟨by decide +kernel, by decide⟩
  rw [show findFile smallNested "." = none by decide +kernel] at hanswers
  have hserves : Serves smallNested ["p"] ["p"] := (governs_self (by decide +kernel)).toServes
  have hfile : ¬smallNested.Holds (["p"] ++ ["sub"]) fileName := by decide +kernel
  have hrepository : ¬smallNested.Holds (["p"] ++ ["sub"]) repositoryName := by decide +kernel
  exact hanswers ["p"] ((serves_concat_iff hfile hrepository).2 hserves)

/-- The working directory has settings, and nothing else does. -/
def smallBeside : FileTree :=
  ⟨Dictionary.ofList [("/p", .directory), ("/p/lib", .directory), ("/p/sub", .directory),
    ("/p/sub/.transmarkrc.json", .file (.text "") 0)], ["p", "sub"], 1, []⟩

/-- After a step upwards the search comes back to the working directory, whose settings are not in
force beside it. -/
theorem not_answers_findFile_of_parent :
    StartsAt smallBeside "../lib" ["p", "lib"]
      ∧ findFile smallBeside "../lib" = some ".transmarkrc.json"
      ∧ ¬Answers smallBeside ["p", "lib"] (some ".transmarkrc.json") := by
  refine ⟨⟨by decide +kernel, by decide⟩, by decide +kernel, ?_⟩
  rintro ⟨directory, hgoverns, hresolve⟩
  rw [show smallBeside.resolve ".transmarkrc.json" = .ok (["p", "sub"] ++ [fileName]) by
    decide +kernel] at hresolve
  obtain rfl := (List.append_inj' (Except.ok.inj hresolve) rfl).1
  exact absurd hgoverns.above (by decide)

end Settings

end Phrasebook
