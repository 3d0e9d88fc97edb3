import Phrasebook.Proofs.SourceFiles

/-!
# Where paths lead

A path leads to a place by its steps, from the directory that it is seen from. A path that never
leads above where it starts leads below that directory. A path to an entry with a name leads to a
place with that name, so that no source file stands at the place of a locale file, whether it can be
read or not.

Results:
* `FileTree.placeOf_join`: where a path leads as seen from a directory.
* `FileTree.liesBelow_of_staysBelow`: a path that stays below its start does so from any directory.
* `FileTree.placeOf_eq_foldl`: a path leads where its steps do.
* `SourceScope.keyOf_resolve_ne_fileKey`: a source file stands at no place of a locale file.
-/

namespace Phrasebook

/-! ## Paths below their start -/

namespace Path

/-- The segments never lead above their start, seen from a number of levels below it. -/
def stayBelow : Nat → List String → Bool
  | _, [] => true
  | depth, segment :: rest =>
    if isIdle segment then stayBelow depth rest
    else if segment = ".." then depth != 0 && stayBelow (depth - 1) rest
    else stayBelow (depth + 1) rest

/-- The path never leads above where it starts, which is not the root. -/
def staysBelow (path : String) : Bool := !isAbsolute path && stayBelow 0 (segments path)

end Path

namespace Text

/-- The texts between separators, of two texts with one between them. -/
theorem split_append (separator : Char) (before after : String) :
    split separator (before ++ String.singleton separator ++ after)
      = split separator before ++ split separator after := by
  have hchars : (before ++ String.singleton separator ++ after).toList
      = before.toList ++ separator :: after.toList := by simp
  unfold split
  rw [hchars, pieces_append_cons, List.map_append]

/-- Pieces with others after them start the same text. -/
theorem intercalate_prefix (separator : Char) (before after : List (List Char)) :
    [separator].intercalate before <+: [separator].intercalate (before ++ after) := by
  induction before with
  | nil => exact List.nil_prefix
  | cons first rest ih =>
    cases rest with
    | nil =>
      cases after with
      | nil => exact List.prefix_rfl
      | cons next after =>
        rw [List.singleton_append, List.intercalate_cons_cons]
        simp [List.intercalate]
    | cons second rest =>
      rw [List.cons_append, List.cons_append, List.intercalate_cons_cons,
        List.intercalate_cons_cons]
      exact (List.prefix_append_right_inj _).2 ih

end Text

namespace Path

theorem join_empty (path : String) : join "" path = path := by
  unfold join
  rw [if_pos (by simp)]

theorem isAbsolute_append {directory : String} (hne : directory ≠ "") (more : String) :
    isAbsolute (directory ++ more) = isAbsolute directory := by
  obtain ⟨c, rest, hchars⟩ := List.exists_cons_of_ne_nil (mt String.toList_eq_nil_iff.1 hne)
  unfold isAbsolute
  rw [String.toList_append, hchars]
  rfl

section Join

variable {directory path : String} (hne : directory ≠ "") (h : isAbsolute path = false)
include hne h

theorem isAbsolute_join : isAbsolute (join directory path) = isAbsolute directory := by
  unfold join
  rw [h, if_neg (by simpa using hne)]
  split
  · exact isAbsolute_append hne path
  · rw [String.append_assoc]
    exact isAbsolute_append hne ("/" ++ path)

/-- A path seen from a directory has the segments of both, but for a slash at the end of the
directory, which parts the two. -/
theorem exists_segments_join :
    ∃ front idle, segments directory = front ++ idle
      ∧ segments (join directory path) = front ++ segments path ∧ front ≠ []
      ∧ ∀ segment ∈ idle, isIdle segment = true := by
  have hsegments : ∀ text, segments text ≠ [] := fun text =>
    mt List.map_eq_nil_iff.1 (Text.pieces_ne_nil '/' text.toList)
  unfold join
  rw [h, if_neg (by simpa using hne)]
  by_cases hslash : directory.toList.getLast? = some '/'
  · rw [if_pos (beq_iff_eq.2 hslash)]
    obtain ⟨front, hfront⟩ := List.getLast?_eq_some_iff.1 hslash
    have hdirectory : directory = String.ofList front ++ String.singleton '/' ++ "" := by
      rw [← String.toList_inj, hfront]
      simp
    refine ⟨segments (String.ofList front), [""], ?_, ?_, hsegments _, by decide⟩
    · rw [hdirectory]
      exact Text.split_append '/' _ ""
    · rw [hdirectory, String.append_empty]
      exact Text.split_append '/' _ path
  · rw [if_neg (by simpa using hslash)]
    exact ⟨segments directory, [], (List.append_nil _).symm, Text.split_append '/' directory path,
      hsegments directory, nofun⟩

end Join

end Path

namespace FileTree

/-- Segments that stay below their start lead below it. -/
theorem exists_append_of_stayBelow {segments : List String} (base below : Place)
    (h : Path.stayBelow below.length segments = true) :
    ∃ rest, segments.foldl stepTo (base ++ below) = base ++ rest := by
  induction segments generalizing below with
  | nil => exact ⟨below, rfl⟩
  | cons segment rest ih =>
    rw [List.foldl_cons, stepTo]
    rw [Path.stayBelow] at h
    by_cases hidle : Path.isIdle segment = true
    · rw [if_pos hidle] at h ⊢
      exact ih below h
    · rw [if_neg hidle] at h ⊢
      by_cases hparent : segment = ".."
      · rw [if_pos hparent] at h ⊢
        rw [Bool.and_eq_true, bne_iff_ne] at h
        rw [List.dropLast_append_of_ne_nil (List.ne_nil_of_length_pos (Nat.pos_of_ne_zero h.1))]
        exact ih below.dropLast (by rw [List.length_dropLast]; exact h.2)
      · rw [if_neg hparent] at h ⊢
        rw [List.append_assoc]
        exact ih (below ++ [segment]) (by rwa [List.length_append, List.length_singleton])

/-- Segments that name nothing lead nowhere. -/
theorem foldl_stepTo_of_isIdle {segments : List String} (place : Place)
    (h : ∀ segment ∈ segments, Path.isIdle segment = true) :
    segments.foldl stepTo place = place := by
  induction segments with
  | nil => rfl
  | cons segment rest ih =>
    rw [List.foldl_cons, stepTo, if_pos (h segment List.mem_cons_self)]
    exact ih fun other hother => h other (List.mem_cons_of_mem _ hother)

/-- **Where a path leads as seen from a directory**: its segments, followed from there. -/
theorem placeOf_join (workingDirectory : Place) (directory : String) {path : String}
    (h : Path.isAbsolute path = false) :
    placeOf workingDirectory (Path.join directory path)
      = (Path.segments path).foldl stepTo (placeOf workingDirectory directory) := by
  by_cases hempty : directory = ""
  · rw [hempty, Path.join_empty]
    unfold placeOf
    rw [h]
    rfl
  · obtain ⟨front, idle, hdirectory, hjoin, -, hidle⟩ := Path.exists_segments_join hempty h
    unfold placeOf
    rw [Path.isAbsolute_join hempty h, hjoin, hdirectory, List.foldl_append, List.foldl_append,
      foldl_stepTo_of_isIdle _ hidle]

/-- The place has the path of one at another place or below it. -/
def LiesBelow (base place : Place) : Prop := ∃ rest, keyOf place = keyOf (base ++ rest)

/-- **A path that stays below its start** leads below the directory that it is seen from. -/
theorem liesBelow_of_staysBelow (workingDirectory : Place) (directory : String) {path : String}
    (h : Path.staysBelow path = true) :
    LiesBelow (placeOf workingDirectory directory)
      (placeOf workingDirectory (Path.join directory path)) := by
  obtain ⟨hrelative, hstays⟩ := Bool.and_eq_true_iff.1 h
  obtain ⟨rest, hrest⟩ := exists_append_of_stayBelow (placeOf workingDirectory directory) [] hstays
  rw [List.append_nil] at hrest
  exact ⟨rest, by rw [placeOf_join _ _ (Bool.not_eq_true' _ ▸ hrelative), hrest]⟩

/-- Names with others after them start the same text. -/
theorem keyOf_prefix_of_liesBelow {base place : Place} (h : LiesBelow base place) :
    (keyOf base).toList <+: (keyOf place).toList := by
  obtain ⟨rest, hrest⟩ := h
  rw [hrest]
  unfold keyOf
  rw [String.toList_append, String.toList_append, String.toList_intercalate,
    String.toList_intercalate, List.map_append]
  exact (List.prefix_append_right_inj _).2 (Text.intercalate_prefix '/' _ _)

end FileTree

/-! ## The places of source files -/

namespace FileTree

/-- The place after a step. -/
def placeAfter (place : Place) : PathStep → Place
  | .root => []
  | .current => place
  | .parent => place.dropLast
  | .entry name => place ++ [name]

theorem foldl_placeAfter_map_entry (place : Place) (names : List String) :
    (names.map PathStep.entry).foldl placeAfter place = place ++ names := by
  induction names generalizing place with
  | nil => simp
  | cons name rest ih =>
    rw [List.map_cons, List.foldl_cons, ih]
    simp [placeAfter]

/-- A segment leads where its step does, if it has one. -/
theorem stepTo_eq (place : Place) (segment : String) :
    stepTo place segment = (Path.laterStep? segment).elim place (placeAfter place) := by
  unfold stepTo Path.isIdle Path.laterStep?
  by_cases hidle : segment = "" ∨ segment = "."
  · rw [if_pos (by simpa using hidle), if_pos hidle]
    rfl
  · rw [if_neg (by simpa using hidle), if_neg hidle]
    split <;> rfl

theorem foldl_stepTo_eq (place : Place) (segments : List String) :
    segments.foldl stepTo place = (segments.filterMap Path.laterStep?).foldl placeAfter place := by
  induction segments generalizing place with
  | nil => rfl
  | cons segment rest ih =>
    rw [List.foldl_cons, stepTo_eq, ih, List.filterMap_cons]
    cases Path.laterStep? segment <;> rfl

/-- **A path leads where its steps do.** -/
theorem placeOf_eq_foldl (workingDirectory : Place) (path : String) :
    placeOf workingDirectory path = (Path.steps path).foldl placeAfter workingDirectory := by
  unfold placeOf Path.steps
  obtain ⟨first, rest, hsegments⟩ :=
    List.exists_cons_of_ne_nil (mt List.map_eq_nil_iff.1 (Text.pieces_ne_nil '/' path.toList))
  rw [← Text.split] at hsegments
  change Path.segments path = first :: rest at hsegments
  rw [hsegments, List.foldl_cons]
  dsimp only
  rw [List.foldl_append, foldl_stepTo_eq]
  congr 1
  unfold Path.firstStep?
  by_cases habsolute : Path.isAbsolute path = true
  · -- Nothing stands before the slash at the start.
    obtain ⟨more, hpath⟩ := List.head?_eq_some_iff.1 (beq_iff_eq.1 habsolute)
    have hfirst : Path.segments path = "" :: (Text.pieces '/' more).map String.ofList := by
      unfold Path.segments Text.split
      rw [hpath]
      rfl
    rw [hsegments] at hfirst
    rw [if_pos habsolute, if_pos habsolute, (List.cons.inj hfirst).1]
    rfl
  · rw [if_neg habsolute, if_neg habsolute]
    by_cases hcurrent : first = "."
    · rw [if_pos hcurrent, hcurrent]
      rfl
    · rw [if_neg hcurrent, stepTo_eq]
      cases Path.laterStep? first <;> rfl

/-- **A path to a named entry leads to a place with that name.** -/
theorem exists_placeOf_eq_of_fileName? (workingDirectory : Place) {path name : String}
    (h : Path.fileName? path = some name) :
    ∃ front, placeOf workingDirectory path = front ++ [name] := by
  obtain ⟨front, hfront⟩ := List.getLast?_eq_some_iff.1 (Path.getLast?_steps_of_fileName? h)
  rw [placeOf_eq_foldl, hfront, List.foldl_append]
  exact ⟨_, rfl⟩

end FileTree

/-- **A source file stands at no place of a locale file**, whether it can be read or not. -/
theorem SourceScope.keyOf_resolve_ne_fileKey {scope : SourceScope} {tree : FileTree} {file : String}
    (hmem : file ∈ (scope.files tree).keys) (workingDirectory : Place) (locales : Locales)
    (language : String) :
    FileTree.keyOf (FileTree.placeOf workingDirectory (scope.resolve file))
      ≠ locales.fileKey workingDirectory language := by
  obtain ⟨path, name, c, hc, hname, hend, rfl⟩ := exists_name_of_mem_files hmem
  refine ne_fileKey_of_getLast? workingDirectory locales language hc ?_
  rcases Path.getLast?_relative scope.root hname hend with hempty | hlast
  · -- The project is that file.
    obtain ⟨front, hfront⟩ := FileTree.exists_placeOf_eq_of_fileName? workingDirectory hname
    rw [FileTree.placeOf_eq_foldl, ← Path.steps_eq_of_relative hname hend hempty,
      ← FileTree.placeOf_eq_foldl] at hfront
    unfold resolve
    rw [hempty, FileTree.placeOf_join _ _ rfl]
    show (FileTree.keyOf (FileTree.placeOf workingDirectory scope.root)).toList.getLast? = _
    rw [hfront]
    exact FileTree.getLast?_keyOf_concat front hend
  · exact FileTree.getLast?_keyOf_placeOf workingDirectory (Path.getLast?_join scope.root hlast)
      (ne_of_mem_ends hc).1 (ne_of_mem_ends hc).2.1

end Phrasebook
