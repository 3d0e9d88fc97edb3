import Mathlib.Data.List.Basic
import Phrasebook.SourceScope
import Phrasebook.Proofs.Reconciliation

/-!
# Source files are no locale files

The name of a source file ends with the extension of a script, that of a locale file with `.json`.
A path that ends with a name leads to a place that ends with it. So no source file stands at the
place of a locale file, whatever directory it is seen from, and saved catalogs leave the sources as
they are.

Results:
* `FileTree.getLast?_keyOf_placeOf`: the place of a path ends as the path does.
* `SourceScope.getLast?_of_mem_files`: how the paths of source files end.
* `SourceScope.keyOf_ne_fileKey`: a source file that can be read stands at no place of a locale file,
  as seen from any directory.
* `Reconciliation.entry?_of_run`: so a reconciliation leaves it alone.
-/

namespace Phrasebook

/-! ## The ends of texts -/

namespace Text

/-- **The last piece of a text ends as the text does**, if that is not with a separator. -/
theorem getLast?_pieces (separator : Char) (text : List Char) :
    ∃ last, (pieces separator text).getLast? = some last
      ∧ last.getLast? = text.getLast?.filter (· != separator) := by
  by_cases hmem : separator ∈ text
  · obtain ⟨before, after, rfl, hafter⟩ := exists_append_cons_of_mem hmem
    refine ⟨after, ?_, ?_⟩
    · rw [pieces_append_cons, pieces_of_not_mem hafter, List.getLast?_concat]
    · rw [List.getLast?_append]
      cases hlast : after.getLast? with
      | none => simp [List.getLast?_eq_none_iff.1 hlast, Option.filter_some]
      | some c =>
        have hc : c ≠ separator := fun h => hafter (h ▸ List.mem_of_getLast? hlast)
        simp [List.getLast?_cons, hlast, hc, Option.filter_some]
  · refine ⟨text, by rw [pieces_of_not_mem hmem]; rfl, ?_⟩
    cases hlast : text.getLast? with
    | none => rfl
    | some c =>
      have hc : c ≠ separator := fun h => hmem (h ▸ List.mem_of_getLast? hlast)
      simp [hc, Option.filter_some]

/-- A text ends as the last of its pieces. -/
theorem exists_getLast?_split (separator : Char) (text : String) :
    ∃ last, (split separator text).getLast? = some last
      ∧ last.toList.getLast? = text.toList.getLast?.filter (· != separator) := by
  obtain ⟨last, hlast, hend⟩ := getLast?_pieces separator text.toList
  refine ⟨String.ofList last, ?_, by rw [String.toList_ofList, hend]⟩
  unfold split
  rw [List.getLast?_map, hlast]
  rfl

end Text

/-- Texts with something between them end as the last one does. -/
theorem getLast?_intercalate (between : String) (texts : List String) {last : String} {c : Char}
    (h : texts.getLast? = some last) (hlast : last.toList.getLast? = some c) :
    (String.intercalate between texts).toList.getLast? = some c := by
  rw [String.toList_intercalate]
  induction texts with
  | nil => cases h
  | cons text rest ih =>
    cases rest with
    | nil =>
      cases h
      simpa [List.intercalate] using hlast
    | cons second rest =>
      rw [List.getLast?_cons_cons] at h
      have hrest := ih h
      rw [List.map_cons] at hrest
      rw [List.map_cons, List.map_cons, List.intercalate_cons_cons, List.getLast?_append, hrest]
      rfl

/-! ## The places of paths -/

/-- A place ends as its name does. -/
theorem FileTree.getLast?_keyOf_concat (front : Place) {name : String} {c : Char}
    (h : name.toList.getLast? = some c) :
    (keyOf (front ++ [name])).toList.getLast? = some c := by
  unfold keyOf
  rw [String.toList_append, List.getLast?_append,
    getLast?_intercalate "/" (front ++ [name]) List.getLast?_concat h]
  rfl

/-- **The place of a path ends as the path does**, if that is with a name. -/
theorem FileTree.getLast?_keyOf_placeOf (workingDirectory : Place) {path : String} {c : Char}
    (h : path.toList.getLast? = some c) (hslash : c ≠ '/') (hdot : c ≠ '.') :
    (keyOf (placeOf workingDirectory path)).toList.getLast? = some c := by
  obtain ⟨last, hlast, hend⟩ := Text.exists_getLast?_split '/' path
  rw [h, Option.filter_some, if_pos (by simpa using hslash)] at hend
  -- The last segment is a name, which is the last one of the place.
  have hidle : Path.isIdle last = false := by
    unfold Path.isIdle
    rw [Bool.or_eq_false_iff]
    constructor
    · refine beq_eq_false_iff_ne.2 ?_
      rintro rfl
      cases hend
    · refine beq_eq_false_iff_ne.2 ?_
      rintro rfl
      exact hdot (Option.some.inj hend).symm
  have hparent : last ≠ ".." := by
    rintro rfl
    exact hdot (Option.some.inj hend).symm
  obtain ⟨front, hfront⟩ := List.getLast?_eq_some_iff.1 hlast
  have hplace : ∃ place, placeOf workingDirectory path = place ++ [last] := by
    unfold placeOf Path.segments
    rw [hfront, List.foldl_append, List.foldl_cons, List.foldl_nil]
    unfold stepTo
    rw [hidle, if_neg Bool.false_ne_true, if_neg hparent]
    exact ⟨_, rfl⟩
  obtain ⟨place, hplace⟩ := hplace
  rw [hplace]
  exact getLast?_keyOf_concat place hend

/-- A way that ends with a segment that names nothing leads to a directory. -/
theorem FileTree.entryAt?_of_follow_idle {tree : FileTree} {place result : Place}
    {front : List String} {last : String} (hidle : Path.isIdle last = true)
    (h : tree.follow place (front ++ [last]) = .ok result) :
    tree.entryAt? result = some .directory := by
  induction front generalizing place with
  | nil =>
    obtain ⟨hentry, -, hrest⟩ := follow_cons_eq_ok_iff.1 h
    unfold stepTo at hrest
    rw [if_pos hidle] at hrest
    cases hrest
    exact hentry
  | cons segment rest ih => exact ih (follow_cons_eq_ok_iff.1 h).2.2

/-- **A path to a text ends with a name**, neither blank nor with a slash at its end. -/
theorem FileTree.exists_getLast?_of_readText {tree : FileTree} {path text : String}
    (h : tree.readText path = .ok text) :
    ∃ c, path.toList.getLast? = some c ∧ c ≠ '/' := by
  obtain ⟨place, stamp, hresolve, hentry⟩ := readText_eq_ok_iff.1 h
  obtain ⟨-, hne, -, hfollow⟩ := resolve_eq_ok_iff.1 hresolve
  cases hend : path.toList.getLast? with
  | none => exact absurd (String.toList_eq_nil_iff.1 (List.getLast?_eq_none_iff.1 hend)) hne
  | some c =>
    refine ⟨c, rfl, ?_⟩
    rintro rfl
    obtain ⟨last, hlast, hlastEnd⟩ := Text.exists_getLast?_split '/' path
    rw [hend, Option.filter_some, if_neg (by simp)] at hlastEnd
    have hidle : Path.isIdle last = true := by
      rw [String.toList_eq_nil_iff.1 (List.getLast?_eq_none_iff.1 hlastEnd)]
      rfl
    obtain ⟨front, hfront⟩ := List.getLast?_eq_some_iff.1 hlast
    unfold Path.segments at hfollow
    rw [hfront] at hfollow
    rw [entryAt?_of_follow_idle hidle hfollow] at hentry
    cases hentry

/-- A path seen from a directory ends as it does itself. -/
theorem Path.getLast?_join (directory : String) {path : String} {c : Char}
    (h : path.toList.getLast? = some c) : (join directory path).toList.getLast? = some c := by
  unfold join
  split
  · exact h
  · split <;> simp only [String.toList_append, List.getLast?_append, h] <;> rfl

/-- The empty path seen from a directory is empty or ends with a slash. -/
theorem Path.getLast?_join_empty (directory : String) :
    (join directory "").toList.getLast? = none
      ∨ (join directory "").toList.getLast? = some '/' := by
  unfold join
  split
  · exact .inl rfl
  · split
    · next hslash =>
      rw [String.append_empty]
      exact .inr (by simpa using hslash)
    · rw [String.append_empty, String.toList_append, List.getLast?_append]
      exact .inr rfl

/-- The file of a language ends as its extension does. -/
theorem Locales.getLast?_pathOf (locales : Locales) (language : String) :
    (locales.pathOf language).toList.getLast? = some 'n' := by
  refine Path.getLast?_join _ ?_
  rw [String.toList_append, List.getLast?_append]
  rfl

/-! ## The paths of source files -/

namespace Path

/-- The extension of a name is its last piece between dots. -/
theorem getLast?_of_extensionOfName? {name extension : String}
    (h : extensionOfName? name = some extension) :
    (Text.split '.' name).getLast? = some extension := by
  rw [← List.head?_reverse]
  unfold extensionOfName? at h
  split at h
  · cases h
  · cases h
  · next last first hreverse =>
    rw [hreverse]
    split at h <;> cases h
    rfl
  · next last rest _ _ hreverse =>
    rw [hreverse]
    exact h

/-- A path with an extension leads to an entry whose name ends as the extension does. -/
theorem exists_fileName?_of_extension? {path extension : String} {c : Char}
    (h : extension? path = some extension) (hend : extension.toList.getLast? = some c) :
    ∃ name, fileName? path = some name ∧ name.toList.getLast? = some c := by
  obtain ⟨name, hname, hextension⟩ := Option.bind_eq_some_iff.1 h
  obtain ⟨last, hlast, hlastEnd⟩ := Text.exists_getLast?_split '.' name
  rw [getLast?_of_extensionOfName? hextension] at hlast
  cases hlast
  rw [hend] at hlastEnd
  exact ⟨name, hname, (Option.filter_eq_some_iff.1 hlastEnd.symm).1⟩

/-- A path seen from a directory keeps its last steps. -/
theorem exists_relative_eq (directory path : String) :
    ∃ count, relative directory path
      = String.intercalate "/" (((steps path).drop count).map PathStep.text) := by
  unfold relative stepsBelow?
  dsimp only
  split
  · exact ⟨_, rfl⟩
  · exact ⟨0, rfl⟩

theorem getLast?_steps_of_fileName? {path name : String} (h : fileName? path = some name) :
    (steps path).getLast? = some (.entry name) := by
  unfold fileName? at h
  split at h
  · next found hfound =>
    cases h
    exact hfound
  · cases h

/-- The text of the last steps of a path ends as the name of its entry, if there are any. -/
theorem getLast?_text_drop {path name : String} {c : Char} (hname : fileName? path = some name)
    (hend : name.toList.getLast? = some c) (count : Nat) :
    (steps path).drop count = []
      ∨ (String.intercalate "/" (((steps path).drop count).map PathStep.text)).toList.getLast?
        = some c := by
  cases hdrop : (steps path).drop count with
  | nil => exact .inl rfl
  | cons step rest =>
    refine .inr (getLast?_intercalate "/" _ (?_ : _ = some name) hend)
    rw [← hdrop, List.getLast?_map, List.getLast?_drop, getLast?_steps_of_fileName? hname, if_neg]
    · rfl
    · intro hlength
      rw [List.drop_eq_nil_of_le hlength] at hdrop
      cases hdrop

/-- A path seen from a directory ends as the name of its entry, unless it is that directory. -/
theorem getLast?_relative (directory : String) {path name : String} {c : Char}
    (hname : fileName? path = some name) (hend : name.toList.getLast? = some c) :
    relative directory path = "" ∨ (relative directory path).toList.getLast? = some c := by
  obtain ⟨count, hrelative⟩ := exists_relative_eq directory path
  rw [hrelative]
  refine (getLast?_text_drop hname hend count).imp_left fun hdrop => ?_
  rw [hdrop]
  rfl

/-- A named entry with no steps below a directory is that directory. -/
theorem steps_eq_of_relative {directory path name : String} {c : Char}
    (hname : fileName? path = some name) (hend : name.toList.getLast? = some c)
    (h : relative directory path = "") : steps directory = steps path := by
  have hempty : ∀ count,
      String.intercalate "/" (((steps path).drop count).map PathStep.text) = "" →
      (steps path).drop count = [] := by
    intro count htext
    refine (getLast?_text_drop hname hend count).resolve_right fun hlast => ?_
    rw [htext] at hlast
    cases hlast
  unfold relative stepsBelow? at h
  dsimp only at h
  split at h
  · next hfront =>
    rw [Option.getD_some] at h
    obtain ⟨more, hmore⟩ := List.isPrefixOf_iff_prefix.1 hfront
    have hdrop := hempty _ h
    rw [← hmore, List.drop_left] at hdrop
    rw [← hmore, hdrop, List.append_nil]
  · have hnil := hempty 0 h
    have hlast := getLast?_steps_of_fileName? hname
    rw [List.drop_zero] at hnil
    rw [hnil] at hlast
    cases hlast

end Path

/-- The members of a set of texts. -/
theorem TextSet.mem_keys_ofTexts {texts : List String} {text : String} :
    text ∈ (TextSet.ofTexts texts).keys ↔ text ∈ texts := by
  have hfold : ∀ set : TextSet, text ∈ (texts.foldl TextSet.add set).keys
      ↔ text ∈ set.keys ∨ text ∈ texts := by
    induction texts with
    | nil => simp
    | cons first rest ih =>
      intro set
      rw [List.foldl_cons, ih, List.mem_cons, ← or_assoc]
      refine or_congr_left ?_
      unfold TextSet.add
      rw [Dictionary.mem_keys, Dictionary.mem_keys, Dictionary.get?_insert]
      by_cases hsame : first = text
      · simp [hsame]
      · simp [hsame, Ne.symm hsame]
  unfold TextSet.ofTexts
  rw [hfold]
  simp [Dictionary.keys, Dictionary.empty]

namespace SourceScope

/-- The characters that the extensions of source files end with. -/
def ends : List Char := ['s', 'x', 'e', 'l']

theorem getLast?_of_mem_extensions {source : CallSource} {extension : String}
    (h : extension ∈ extensions source) : ∃ c ∈ ends, extension.toList.getLast? = some c := by
  have hall : (extensions source).all
      (fun extension => ends.any fun c => extension.toList.getLast? == some c) = true := by
    cases source <;> decide
  obtain ⟨c, hc, hend⟩ := List.any_eq_true.1 (List.all_eq_true.1 hall extension h)
  exact ⟨c, hc, beq_iff_eq.1 hend⟩

theorem ne_of_mem_ends {c : Char} (h : c ∈ ends) : c ≠ '/' ∧ c ≠ '.' ∧ c ≠ 'n' := by
  simp only [ends, List.mem_cons, List.not_mem_nil, or_false] at h
  rcases h with rfl | rfl | rfl | rfl <;> decide

/-- A path that ends as those of source files is not that of a locale file. -/
theorem ne_fileKey_of_getLast? (workingDirectory : Place) (locales : Locales) (language : String)
    {key : String} {c : Char} (hc : c ∈ ends) (h : key.toList.getLast? = some c) :
    key ≠ locales.fileKey workingDirectory language := by
  have hlocale := FileTree.getLast?_keyOf_placeOf workingDirectory
    (locales.getLast?_pathOf language) (by decide) (by decide)
  rintro rfl
  unfold Locales.fileKey at h
  rw [hlocale] at h
  exact (ne_of_mem_ends hc).2.2 (Option.some.inj h).symm

variable {scope : SourceScope} {tree : FileTree} {file : String}

theorem mem_files :
    file ∈ (scope.files tree).keys
      ↔ ∃ path ∈ (scope.starts tree).flatMap (scope.walk tree),
        scope.isSource path = true ∧ scope.isIgnored path = false
          ∧ Path.relative scope.root path = file := by
  unfold files
  rw [TextSet.mem_keys_ofTexts]
  simp only [List.mem_map, List.mem_filter, Bool.and_eq_true, Bool.not_eq_true', and_assoc]

/-- A source file is an entry with a name, which ends with the extension. -/
theorem exists_name_of_mem_files (h : file ∈ (scope.files tree).keys) :
    ∃ path name, ∃ c ∈ ends, Path.fileName? path = some name ∧ name.toList.getLast? = some c
      ∧ Path.relative scope.root path = file := by
  obtain ⟨path, -, hsource, -, hrelative⟩ := mem_files.1 h
  unfold isSource at hsource
  rw [Bool.and_eq_true] at hsource
  obtain ⟨extension, hextension, hmem⟩ := (Option.any_eq_true _ _).1 hsource.2
  obtain ⟨c, hc, hend⟩ := getLast?_of_mem_extensions (List.contains_iff_mem.1 hmem)
  obtain ⟨name, hname, hnameEnd⟩ := Path.exists_fileName?_of_extension? hextension hend
  exact ⟨path, name, c, hc, hname, hnameEnd, hrelative⟩

/-- **The path of a source file ends with its extension**, unless the project is that file. -/
theorem getLast?_of_mem_files (h : file ∈ (scope.files tree).keys) :
    file = "" ∨ ∃ c ∈ ends, file.toList.getLast? = some c := by
  obtain ⟨path, name, c, hc, hname, hend, rfl⟩ := exists_name_of_mem_files h
  exact (Path.getLast?_relative scope.root hname hend).imp_right fun hfile => ⟨c, hc, hfile⟩

/-- Reading a source file looks at its text alone, and leaves the files as they are. -/
theorem runOn_readUnit (scope : SourceScope) (file : String) (tree : FileTree) :
    (scope.readUnit file).runOn tree
      = (match tree.readText (scope.resolve file) with
        | .ok code => .ok ⟨file, code⟩
        | .error fault => .error (.file (scope.resolve file) fault), tree) := by
  unfold readUnit FileAction.readText
  cases hread : tree.readText (scope.resolve file) <;>
    simp only [FileAction.runOn_bind, FileAction.runOn_tree, FileAction.orFault, hread] <;> rfl

/-- The text of a source file in a tree. -/
def Reads (scope : SourceScope) (tree : FileTree) (unit : SourceUnit) : Prop :=
  tree.readText (scope.resolve unit.path) = .ok unit.code

theorem runOn_readUnit_eq_ok_iff {unit : SourceUnit} {after : FileTree} :
    (scope.readUnit file).runOn tree = (.ok unit, after)
      ↔ scope.Reads tree unit ∧ unit.path = file ∧ after = tree := by
  rw [runOn_readUnit]
  unfold Reads
  constructor
  · intro h
    cases hread : tree.readText (scope.resolve file) with
    | error fault =>
      rw [hread] at h
      cases h
    | ok code =>
      rw [hread] at h
      cases h
      exact ⟨hread, rfl, rfl⟩
  · rintro ⟨hread, rfl, rfl⟩
    rw [hread]

/-- A source file has one text. -/
theorem Reads.unique {first second : SourceUnit} (hfirst : scope.Reads tree first)
    (hsecond : scope.Reads tree second) (hpath : first.path = second.path) : first = second := by
  rcases first with ⟨path, code⟩
  rcases second with ⟨path', code'⟩
  obtain rfl : path = path' := hpath
  unfold Reads at hfirst hsecond
  rw [hfirst] at hsecond
  cases hsecond
  rfl

/-- The marker calls of a source file are those of its unit. -/
theorem callsOf_of_reads {unit : SourceUnit} (rules : MarkerRules)
    (h : scope.Reads tree unit) : Survey.callsOf scope rules tree unit.path = rules.find unit := by
  unfold Survey.callsOf
  rw [runOn_readUnit_eq_ok_iff.2 ⟨h, rfl, rfl⟩]
  rfl

section Calls

variable {other : FileTree} {files : List String}
  (h : ∀ file ∈ files,
    other.readText (scope.resolve file) = tree.readText (scope.resolve file))
include h

/-- The marker calls of files depend on their texts alone. -/
theorem callsOf_congr (rules : MarkerRules) (hmem : file ∈ files) :
    Survey.callsOf scope rules other file = Survey.callsOf scope rules tree file := by
  unfold Survey.callsOf
  rw [runOn_readUnit, runOn_readUnit, h file hmem]

theorem finds_congr (rules : MarkerRules) (ns phrase : String) :
    Survey.Finds scope rules other files ns phrase
      ↔ Survey.Finds scope rules tree files ns phrase := by
  unfold Survey.Finds
  refine and_congr_right fun _ => exists_congr fun file => and_congr_right fun hmem => ?_
  rw [callsOf_congr h rules hmem]

theorem searchable_congr (rules : MarkerRules) :
    Survey.Searchable scope rules other files ↔ Survey.Searchable scope rules tree files := by
  unfold Survey.Searchable
  refine forall_congr' fun file => imp_congr_right fun hmem => ?_
  rw [callsOf_congr h rules hmem]

end Calls

/-- A source file that can be read has a path that ends with its extension. -/
theorem getLast?_of_reads {unit : SourceUnit} (hmem : unit.path ∈ (scope.files tree).keys)
    (hread : scope.Reads tree unit) : ∃ c ∈ ends, unit.path.toList.getLast? = some c := by
  rcases getLast?_of_mem_files hmem with hempty | hend
  · unfold Reads resolve at hread
    rw [hempty] at hread
    obtain ⟨c, hend, hc⟩ := FileTree.exists_getLast?_of_readText hread
    rcases Path.getLast?_join_empty scope.root with hnone | hslash
    · rw [hend] at hnone
      cases hnone
    · rw [hend] at hslash
      exact absurd (Option.some.inj hslash) hc
  · exact hend

/-- **A source file that can be read stands at no place of a locale file**, from whatever directory
its path is seen. -/
theorem keyOf_ne_fileKey {unit : SourceUnit} (hmem : unit.path ∈ (scope.files tree).keys)
    (hread : scope.Reads tree unit) (workingDirectory : Place) (directory : String)
    (locales : Locales) (language : String) :
    FileTree.keyOf (FileTree.placeOf workingDirectory (Path.join directory unit.path))
      ≠ locales.fileKey workingDirectory language := by
  obtain ⟨c, hc, hend⟩ := getLast?_of_reads hmem hread
  exact ne_fileKey_of_getLast? workingDirectory locales language hc
    (FileTree.getLast?_keyOf_placeOf workingDirectory (Path.getLast?_join directory hend)
      (ne_of_mem_ends hc).1 (ne_of_mem_ends hc).2.1)

end SourceScope

/-- **A reconciliation leaves everything at other places alone.** -/
theorem Reconciliation.entry?_of_run {locales : Locales} {rule : Merge} {outcomes : List Outcome}
    {survey : Survey} {before after : FileTree} {reconciliation : Reconciliation}
    (h : (run locales rule outcomes survey).runOn before = (.ok reconciliation, after))
    {path : String} {entry : FileEntry}
    (hne : ∀ language, FileTree.keyOf (FileTree.placeOf before.workingDirectory path)
      ≠ locales.fileKey before.workingDirectory language)
    (hentry : before.entry? path = some entry) : after.entry? path = some entry := by
  obtain ⟨source, target, middle, -, -, hsource, htarget, -⟩ := exists_of_run h
  have hfirst := Locales.keepsBut_of_save hsource
  have hsecond := Locales.keepsBut_of_save htarget
  rw [hfirst.workingDirectory] at hsecond
  refine FileTree.entry?_of_keepsBut hsecond ?_
    (FileTree.entry?_of_keepsBut hfirst (hne _) hentry)
  rw [hfirst.workingDirectory]
  exact hne _

end Phrasebook
