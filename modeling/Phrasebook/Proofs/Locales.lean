import Phrasebook.Locales
import Phrasebook.Proofs.CatalogText
import Phrasebook.Proofs.FileAction

/-!
# Loading and saving catalogs

What is loaded depends on the text of the file alone (`Locales.Holds`). After a save the file holds
the saved catalog, and every file at another place holds what it held; a save that does not write
leaves all files as they are.

Results:
* `Locales.holds_of_save`: the saved catalog is loaded again.
* `Locales.keepsBut_of_save`: a save changes no other file.
* `Locales.eq_of_save_false`: a save that says it wrote nothing changes nothing.
* `Locales.survives_of_save`: catalogs survive a save and a load, and a second save is idle.
* `Locales.standing?_of_save`: what stands at the place of any language after a save.
* `Locales.saved_save`: how a save ends, with or without a problem.
-/

namespace Phrasebook.Locales

variable {locales : Locales} {language : String} {before after : FileTree}

/-- The catalog of a file that was read. -/
def catalogOf (path : String) (found : Except FileFault String) : Except Problem Catalog :=
  match found with
  | .ok text =>
    match Catalog.ofText text with
    | .ok catalog => .ok catalog
    | .error defect => .error (.catalog path defect)
  | .error .notFound => .ok Catalog.empty
  | .error fault => .error (.file path fault)

/-- **Loading looks at the text of one file**, and leaves the files as they are. -/
theorem runOn_load (locales : Locales) (language : String) (files : FileTree) :
    (locales.load language).runOn files
      = (catalogOf (locales.pathOf language) (files.readText (locales.pathOf language)), files) := by
  unfold load
  dsimp only
  rw [FileAction.runOn_bind, FileAction.runOn_readTextIfFound]
  cases files.readText (locales.pathOf language) with
  | error fault => cases fault <;> rfl
  | ok text =>
    dsimp only [FileAction.foundText, catalogOf]
    cases Catalog.ofText text <;> rfl

/-- The file of a language holds a catalog. A file that is not there holds the empty one. -/
def Holds (locales : Locales) (language : String) (files : FileTree) (catalog : Catalog) : Prop :=
  ((locales.load language).runOn files).1 = .ok catalog

instance (locales : Locales) (language : String) (files : FileTree) (catalog : Catalog) :
    Decidable (locales.Holds language files catalog) := decidable_of_iff _ toOption_eq_some_iff

theorem holds_iff {files : FileTree} {catalog : Catalog} :
    locales.Holds language files catalog
      ↔ catalogOf (locales.pathOf language) (files.readText (locales.pathOf language))
          = .ok catalog := by
  unfold Holds
  rw [runOn_load]

theorem Holds.unique {files : FileTree} {first second : Catalog}
    (hfirst : locales.Holds language files first) (hsecond : locales.Holds language files second) :
    first = second := by
  unfold Holds at hfirst hsecond
  rw [hfirst] at hsecond
  exact Except.ok.inj hsecond

/-- A loaded catalog is the one that the file holds. -/
theorem runOn_load_eq_ok_iff {files : FileTree} {catalog : Catalog} :
    (locales.load language).runOn files = (.ok catalog, after)
      ↔ locales.Holds language files catalog ∧ after = files := by
  unfold Holds
  rw [runOn_load, Prod.mk.injEq, eq_comm (a := files)]

/-- A file with the text of a catalog holds that catalog. -/
theorem holds_of_readText {files : FileTree} {catalog : Catalog}
    (h : files.readText (locales.pathOf language) = .ok catalog.text) :
    locales.Holds language files catalog := by
  rw [holds_iff, h, catalogOf, Catalog.ofText_text]

/-- Files that read alike hold the same. -/
theorem Holds.of_readText_eq {catalog : Catalog} (h : locales.Holds language before catalog)
    (hsame : after.readText (locales.pathOf language)
      = before.readText (locales.pathOf language)) : locales.Holds language after catalog := by
  rw [holds_iff] at h ⊢
  rwa [hsame]

/-! ## Saving -/

/-- The key of the file of a language among the entries of a tree. -/
def fileKey (locales : Locales) (workingDirectory : Place) (language : String) : String :=
  FileTree.keyOf (FileTree.placeOf workingDirectory (locales.pathOf language))

/-- The file of a language holds no more than the first bytes of a text, and every other file is as
it was. -/
structure CutShort (locales : Locales) (language text : String) (before after : FileTree) : Prop where
  keeps : FileTree.KeepsBut (locales.fileKey before.workingDirectory language) before after
  others : ∀ place, FileTree.keyOf place ≠ locales.fileKey before.workingDirectory language →
    after.fileAt? place = before.fileAt? place
  file : ∃ count stamp, count < text.utf8ByteSize
    ∧ after.fileAt? (FileTree.placeOf before.workingDirectory (locales.pathOf language))
      = some (.firstBytes text count, stamp)

/-- How a save ends. -/
inductive Saved (locales : Locales) (language : String) (catalog : Catalog) (before : FileTree) :
    Except Problem Bool × FileTree → Prop
  /-- The file holds the text of the catalog already. -/
  | idle (same : before.readText (locales.pathOf language) = .ok catalog.text) :
      Saved locales language catalog before (.ok false, before)
  /-- The file can be neither read nor opened, or its directory is not there. -/
  | refused (problem : Problem) {after : FileTree} (files : FileTree.SameFiles before after) :
      Saved locales language catalog before (.error problem, after)
  | written {middle after : FileTree} (files : FileTree.SameFiles before middle)
      (writes : middle.write (locales.pathOf language) catalog.text = (.ok (), after)) :
      Saved locales language catalog before (.ok true, after)
  /-- The disk takes no more. -/
  | cut {after : FileTree} (short : locales.CutShort language catalog.text before after) :
      Saved locales language catalog before
        (.error (.file (locales.pathOf language) .noSpace), after)

/-- A write that is cut short after directories were added. -/
theorem cutShort_of_wrote {middle : FileTree} {text : String} {place : Place} {count : Nat}
    (files : FileTree.SameFiles before middle)
    (way : middle.resolve (locales.pathOf language) = .ok place)
    (file : middle.entryAt? place ≠ some .directory) (short : count < text.utf8ByteSize) :
    locales.CutShort language text before (middle.put place (.firstBytes text count)) := by
  have hplace := FileTree.resolve_eq_placeOf way
  rw [files.workingDirectory] at hplace
  have hkey : locales.fileKey before.workingDirectory language = FileTree.keyOf place := by
    rw [hplace]
    rfl
  constructor
  case keeps =>
    rw [hkey]
    exact (files.keeps _).trans (FileTree.keepsBut_put file _)
  case others =>
    intro other hne
    rw [hkey] at hne
    rw [FileTree.fileAt?_put _ hne, files.fileAt?]
  case file =>
    refine ⟨count, middle.nextStamp, short, ?_⟩
    rw [← hplace]
    unfold FileTree.fileAt?
    rw [FileTree.entryAt?_put file]

/-- **Every save ends in one of these ways.** -/
theorem saved_save (locales : Locales) (language : String) (catalog : Catalog)
    (before : FileTree) :
    Saved locales language catalog before ((locales.save language catalog).runOn before) := by
  unfold save
  dsimp only
  rw [FileAction.runOn_bind, FileAction.runOn_readTextIfFound]
  cases hfound : FileAction.foundText (locales.pathOf language)
      (before.readText (locales.pathOf language)) with
  | error problem => exact .refused problem (.refl before)
  | ok text? =>
    dsimp only
    by_cases hsame : text? = some catalog.text
    · rw [if_pos hsame]
      rw [hsame] at hfound
      exact .idle (FileAction.foundText_eq_ok_some_iff.1 hfound)
    · rw [if_neg hsame]
      rcases hcreate : (FileAction.createDirectories locales.directory).runOn before with
        ⟨created, middle⟩
      have files := FileAction.sameFiles_of_createDirectories hcreate
      cases created with
      | error problem =>
        rw [FileAction.runOn_bind, hcreate]
        exact .refused problem files
      | ok =>
        rw [FileAction.runOn_bind_of_runOn hcreate, FileAction.runOn_bind,
          FileAction.runOn_writeText]
        have hwrote := middle.wrote_write (locales.pathOf language) catalog.text
        rcases hwrite : middle.write (locales.pathOf language) catalog.text with ⟨found, after⟩
        rw [hwrite] at hwrote
        cases hwrote with
        | refused fault => exact .refused _ files
        | whole => exact .written files hwrite
        | cut way file short => exact .cut (cutShort_of_wrote files way file short)

/-- A catalog whose text the file has is not written. -/
theorem runOn_save_of_readText {files : FileTree} {catalog : Catalog}
    (h : files.readText (locales.pathOf language) = .ok catalog.text) :
    (locales.save language catalog).runOn files = (.ok false, files) := by
  unfold save
  dsimp only
  rw [FileAction.runOn_bind, FileAction.runOn_readTextIfFound, h]
  dsimp only [FileAction.foundText]
  rw [if_pos rfl]
  rfl

section

variable {catalog : Catalog} {found : Except Problem Bool} {written : Bool}

/-- The text of a saved catalog is read from its file. -/
theorem readText_of_save
    (h : (locales.save language catalog).runOn before = (.ok written, after)) :
    after.readText (locales.pathOf language) = .ok catalog.text := by
  have hsaved := locales.saved_save language catalog before
  rw [h] at hsaved
  cases hsaved with
  | idle same => exact same
  | written files writes => exact FileTree.readText_write writes

/-- **A saved catalog is loaded again.** -/
theorem holds_of_save
    (h : (locales.save language catalog).runOn before = (.ok written, after)) :
    locales.Holds language after catalog := holds_of_readText (readText_of_save h)

/-- **A save changes no other file**, however it ends. -/
theorem keepsBut_of_save
    (h : (locales.save language catalog).runOn before = (found, after)) :
    FileTree.KeepsBut (locales.fileKey before.workingDirectory language) before after := by
  have hsaved := locales.saved_save language catalog before
  rw [h] at hsaved
  cases hsaved with
  | idle => exact .refl _ before
  | refused _ files => exact files.keeps _
  | written files writes => exact files.keepsBut_write writes
  | cut short => exact short.keeps

/-- **A save that wrote nothing changes nothing.** -/
theorem eq_of_save_false
    (h : (locales.save language catalog).runOn before = (.ok false, after)) : after = before := by
  have hsaved := locales.saved_save language catalog before
  rw [h] at hsaved
  cases hsaved
  rfl

/-- A save leaves all files but its own as they are, however it ends. -/
theorem fileAt?_of_save
    (h : (locales.save language catalog).runOn before = (found, after)) {place : Place}
    (hne : FileTree.keyOf place ≠ locales.fileKey before.workingDirectory language) :
    after.fileAt? place = before.fileAt? place := by
  have hsaved := locales.saved_save language catalog before
  rw [h] at hsaved
  cases hsaved with
  | idle => rfl
  | refused _ files => exact files.fileAt? place
  | written files writes =>
    unfold fileKey at hne
    rw [← files.workingDirectory] at hne
    rw [FileTree.fileAt?_write writes hne, files.fileAt?]
  | cut short => exact short.others place hne

/-- **A save that ends with a problem** leaves all files as they are, unless the disk took no more
than the first bytes of the text. -/
theorem sameFiles_or_cutShort_of_save_error {problem : Problem}
    (h : (locales.save language catalog).runOn before = (.error problem, after)) :
    FileTree.SameFiles before after
      ∨ problem = .file (locales.pathOf language) .noSpace
        ∧ locales.CutShort language catalog.text before after := by
  have hsaved := locales.saved_save language catalog before
  rw [h] at hsaved
  cases hsaved with
  | refused _ files => exact .inl files
  | cut short => exact .inr ⟨rfl, short⟩

end

/-! ## Saving and loading again -/

/-- **Catalogs survive a save and a load.** The text of a catalog is read as that catalog. After a
save the catalog is loaded again, and saving it once more writes nothing and leaves all files as
they are. A save writes nothing exactly if the file holds the text of the catalog already. -/
theorem survives_of_save (locales : Locales) (language : String) (catalog : Catalog) :
    Catalog.ofText catalog.text = .ok catalog
      ∧ ∀ before after written,
        (locales.save language catalog).runOn before = (.ok written, after) →
          (locales.load language).runOn after = (.ok catalog, after)
            ∧ (locales.save language catalog).runOn after = (.ok false, after)
            ∧ (written = false
              ↔ before.readText (locales.pathOf language) = .ok catalog.text)
            ∧ (written = false → after = before) := by
  refine ⟨Catalog.ofText_text catalog, fun before after written h => ?_⟩
  have hread := readText_of_save h
  refine ⟨runOn_load_eq_ok_iff.2 ⟨holds_of_save h, rfl⟩, runOn_save_of_readText hread, ?_, ?_⟩
  · constructor
    · rintro rfl
      rwa [eq_of_save_false h] at hread
    · intro hbefore
      rw [runOn_save_of_readText hbefore] at h
      cases h
      rfl
  · rintro rfl
    exact eq_of_save_false h

/-- Locales without files. -/
def smallLocales : Locales := ⟨"/locales", "zh", "en"⟩

/-- A catalog with a namespace without keys, and with texts that are escaped in JSON. -/
def smallEscaped : Catalog :=
  (Catalog.empty.touch "").insert "a\"b" "\\ \n" "\u0001你好\t"

/-- Such a catalog survives. -/
theorem survives_small_of_save :
    ∃ after, (smallLocales.save "zh" smallEscaped).runOn FileTree.empty = (.ok true, after)
      ∧ (smallLocales.load "zh").runOn after = (.ok smallEscaped, after)
      ∧ (smallLocales.save "zh" smallEscaped).runOn after = (.ok false, after) := by
  have hwritten : ((smallLocales.save "zh" smallEscaped).runOn FileTree.empty).1.toOption
      = some true := by decide +kernel
  have hsave : (smallLocales.save "zh" smallEscaped).runOn FileTree.empty
      = (.ok true, ((smallLocales.save "zh" smallEscaped).runOn FileTree.empty).2) :=
    Prod.ext (toOption_eq_some_iff.1 hwritten) rfl
  obtain ⟨hload, hagain, -⟩ :=
    (survives_of_save smallLocales "zh" smallEscaped).2 _ _ _ hsave
  exact ⟨_, hsave, hload, hagain⟩

/-! ## The file at the place of a language -/

/-- The catalog of the file that stands where the path of a language leads, whether or not the way
there can be followed. -/
def standing? (locales : Locales) (language : String) (files : FileTree) : Option Catalog :=
  match files.fileAt? (FileTree.placeOf files.workingDirectory (locales.pathOf language)) with
  | some (.text text, _) => (Catalog.ofText text).toOption
  | _ => none

/-- What is loaded stands there, unless nothing was found. -/
theorem eq_empty_or_standing?_of_holds {files : FileTree} {catalog : Catalog}
    (h : locales.Holds language files catalog) :
    catalog = Catalog.empty ∨ locales.standing? language files = some catalog := by
  rw [holds_iff] at h
  cases hread : files.readText (locales.pathOf language) with
  | error fault =>
    rw [hread] at h
    cases fault <;> cases h
    exact .inl rfl
  | ok text =>
    rw [hread] at h
    obtain ⟨place, stamp, hresolve, hentry⟩ := FileTree.readText_eq_ok_iff.1 hread
    have hfile : files.fileAt? (FileTree.placeOf files.workingDirectory (locales.pathOf language))
        = some (.text text, stamp) := by
      rw [← FileTree.resolve_eq_placeOf hresolve]
      unfold FileTree.fileAt?
      rw [hentry]
    right
    unfold standing?
    rw [hfile]
    dsimp only [catalogOf] at h ⊢
    cases hcatalog : Catalog.ofText text with
    | ok found =>
      rw [hcatalog] at h
      exact congrArg some (Except.ok.inj h)
    | error defect =>
      rw [hcatalog] at h
      cases h

/-- New directories change no catalog. -/
theorem standing?_of_sameFiles (h : FileTree.SameFiles before after) (language : String) :
    locales.standing? language after = locales.standing? language before := by
  unfold standing?
  rw [h.workingDirectory, h.fileAt?]

/-- Where the way of a language leads to the place of a file, that file stands for it. -/
theorem fileAt?_of_keyOf_eq {tree : FileTree} {place other : Place} {content : FileContent}
    {stamp : Nat} (hfile : tree.fileAt? place = some (content, stamp))
    (hroot : other.isEmpty = false) (hkey : FileTree.keyOf other = FileTree.keyOf place) :
    tree.fileAt? other = some (content, stamp) := by
  have hentry := FileTree.entryAt?_of_fileAt? hfile
  refine FileTree.fileAt?_of_entryAt? ?_
  rw [tree.entryAt?_of_keyOf_eq hroot (FileTree.isEmpty_of_entryAt? hentry) hkey, hentry]

/-- The first bytes of the text of a catalog hold no catalog but that one and the empty one. -/
theorem eq_of_firstBytes {catalog read : Catalog} {count : Nat} {text : String}
    (hbytes : FileContent.firstBytes catalog.text count = .text text)
    (hread : (Catalog.ofText text).toOption = some read) : read = Catalog.empty ∨ read = catalog := by
  unfold FileContent.firstBytes at hbytes
  dsimp only at hbytes
  split at hbytes
  · obtain rfl := FileContent.text.inj hbytes
    refine Catalog.eq_of_ofText_prefix (Text.append_splitAtOffset count _).symm
      (toOption_eq_some_iff.1 hread)
  · cases hbytes

/-- **After a save a language has its old catalog or the saved one**, which may be there for the
language of another file with the same place. A save that is cut short may leave the empty catalog
or none. -/
theorem standing?_of_save {catalog : Catalog} {found : Except Problem Bool}
    (h : (locales.save language catalog).runOn before = (found, after)) (other : String) :
    locales.standing? other after = locales.standing? other before
      ∨ ∀ read, locales.standing? other after = some read →
        read = Catalog.empty ∨ read = catalog := by
  have hdirectory := (keepsBut_of_save h).workingDirectory
  have hsaved := locales.saved_save language catalog before
  rw [h] at hsaved
  by_cases hplace : FileTree.keyOf (FileTree.placeOf before.workingDirectory (locales.pathOf other))
      = locales.fileKey before.workingDirectory language
  case neg =>
    left
    unfold standing?
    rw [hdirectory, fileAt?_of_save h hplace]
  -- The other language has its file at the place of this one.
  cases hroot : (FileTree.placeOf after.workingDirectory (locales.pathOf other)).isEmpty with
  | true =>
    left
    rw [hdirectory] at hroot
    unfold standing? FileTree.fileAt? FileTree.entryAt?
    rw [hdirectory, if_pos hroot, if_pos hroot]
  | false =>
    rw [← hdirectory] at hplace
    cases hsaved with
    | idle => exact .inl rfl
    | refused _ files => exact .inl (standing?_of_sameFiles files other)
    | written files writes =>
      obtain ⟨place, stamp, hresolve, hentry⟩ :=
        FileTree.readText_eq_ok_iff.1 (readText_of_save h)
      rw [fileKey, ← FileTree.resolve_eq_placeOf hresolve] at hplace
      refine .inr fun read hread => .inr ?_
      unfold standing? at hread
      rw [fileAt?_of_keyOf_eq (FileTree.fileAt?_of_entryAt? hentry) hroot hplace] at hread
      dsimp only at hread
      rw [Catalog.ofText_text] at hread
      exact (Option.some.inj hread).symm
    | cut short =>
      obtain ⟨count, stamp, -, hfile⟩ := short.file
      rw [← hdirectory] at hfile
      refine .inr fun read hread => ?_
      unfold standing? at hread
      rw [fileAt?_of_keyOf_eq hfile hroot hplace] at hread
      split at hread
      · next text _ hbytes => exact eq_of_firstBytes (Prod.mk.inj (Option.some.inj hbytes)).1 hread
      · cases hread

/-- **After two saves** a language has its old catalog, one of the saved ones, or the empty one. -/
theorem standing?_of_saves {first second : Catalog} {middle : FileTree} {language' : String}
    {written found : Except Problem Bool}
    (hfirst : (locales.save language first).runOn before = (written, middle))
    (hsecond : (locales.save language' second).runOn middle = (found, after)) (other : String) :
    locales.standing? other after = locales.standing? other before
      ∨ ∀ read, locales.standing? other after = some read →
        read = Catalog.empty ∨ read = first ∨ read = second := by
  rcases standing?_of_save hsecond other with hsame | hread
  · rw [hsame]
    exact (standing?_of_save hfirst other).imp_right fun hread read hstanding =>
      (hread read hstanding).imp_right .inl
  · exact .inr fun read hstanding => (hread read hstanding).imp_right .inr

/-! ## The two languages -/

/-- The files of the two languages are different ones. -/
def Apart (locales : Locales) (workingDirectory : Place) : Prop :=
  locales.fileKey workingDirectory locales.sourceLanguage
    ≠ locales.fileKey workingDirectory locales.targetLanguage

instance (locales : Locales) (workingDirectory : Place) :
    Decidable (locales.Apart workingDirectory) := inferInstanceAs (Decidable (_ ≠ _))

end Phrasebook.Locales
