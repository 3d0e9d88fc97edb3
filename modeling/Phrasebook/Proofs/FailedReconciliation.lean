import Phrasebook.Proofs.Session

/-!
# Reconciliations that fail

The two locale files are saved one after the other, and nothing takes the first save back. A
reconciliation that ends with a problem leaves the index alone, and all files too unless a save
failed late: if it was the second one, the source file already holds its merged catalog; and where
the disk took no more, the file being saved holds the first bytes of its text. Every other file is
as it was. The index cannot fail to follow the files, since what was just saved can be loaded.

Results:
* `Project.unchanged_of_reconcile_error`: what a failed reconciliation changes.
* `Project.not_unchanged_of_reconcile_error`: the first save stays when the second one fails.
-/

namespace Phrasebook.Project

open SessionAction

variable {project : Project} {before after : Session} {outcomes : List Outcome} {problem : Problem}

/-- **The index can follow a source file that holds a catalog.** -/
theorem runOn_refresh_of_holds {source : Catalog}
    (h : project.locales.Holds project.locales.sourceLanguage before.files source) :
    project.refresh.runOn before
      = (.ok (), { before with index := project.indexOf source }) := by
  have hindex : runOn (onFiles project.loadIndex) before
      = (.ok (project.indexOf source), before) := by
    rw [runOn_onFiles, runOn_loadIndex_of_holds h]
  unfold refresh
  rw [runOn_bind_of_runOn hindex]
  rfl

/-- What fails in a failed reconciliation is its work on the files. -/
theorem run_of_reconcile_error
    (h : (project.reconcile outcomes).runOn before = (.error problem, after)) :
    (Reconciliation.run project.locales project.settings.merge outcomes
        (project.surveyOf outcomes before)).runOn before.files = (.error problem, after.files)
      ∧ after.index = before.index ∧ after.version = before.version := by
  unfold reconcile at h
  rw [runOn_bind_of_runOn (project.runOn_survey outcomes before)] at h
  rcases runOn_bind_eq_error h with hrun | ⟨reconciliation, middle, hrun, hrest⟩
  · rw [runOn_onFiles] at hrun
    obtain ⟨hproblem, rfl⟩ := Prod.mk.inj hrun
    exact ⟨Prod.ext hproblem rfl, rfl, rfl⟩
  · obtain ⟨hfiles, -⟩ := runOn_onFiles_eq_ok hrun
    obtain ⟨sourceAfter, hsource⟩ := Reconciliation.exists_holds_source_of_run hfiles
    split at hrest
    · rw [runOn_bind_of_runOn (runOn_refresh_of_holds hsource)] at hrest
      cases hrest
    · cases hrest

section

variable (project : Project) (outcomes : List Outcome) (before after : Session)
  (source target : Catalog)

/-- The catalogs that a reconciliation found, whose merged catalogs it saved. -/
structure Merging : Prop where
  source : project.locales.Holds project.locales.sourceLanguage before.files source
  target : project.locales.Holds project.locales.targetLanguage before.files target

/-- A reconciliation wrote the source file, and then could not write the target file. -/
structure HalfWritten : Prop where
  saved : after.files.readText (project.locales.pathOf project.locales.sourceLanguage)
    = .ok (project.mergedOf outcomes before source target).source.text
  others : ∀ place, FileTree.keyOf place
      ≠ project.locales.fileKey before.files.workingDirectory project.locales.sourceLanguage →
    after.files.fileAt? place = before.files.fileAt? place

/-- A reconciliation wrote the source file, which is to be read unless the languages share it, and
then the disk took no more than the first bytes of the target file. -/
structure TargetCut : Prop where
  saved : project.locales.Apart before.files.workingDirectory →
    after.files.readText (project.locales.pathOf project.locales.sourceLanguage)
      = .ok (project.mergedOf outcomes before source target).source.text
  cut : ∃ count stamp,
    count < (project.mergedOf outcomes before source target).target.text.utf8ByteSize
      ∧ after.files.fileAt? (FileTree.placeOf before.files.workingDirectory
          (project.locales.pathOf project.locales.targetLanguage))
        = some (.firstBytes (project.mergedOf outcomes before source target).target.text count,
          stamp)
  others : ∀ place, FileTree.keyOf place
      ≠ project.locales.fileKey before.files.workingDirectory project.locales.sourceLanguage →
    FileTree.keyOf place
      ≠ project.locales.fileKey before.files.workingDirectory project.locales.targetLanguage →
    after.files.fileAt? place = before.files.fileAt? place

end

/-- What a failed reconciliation leaves of the files. -/
inductive Left (project : Project) (outcomes : List Outcome) (problem : Problem)
    (before after : Session) : Prop
  /-- All files are as they were. -/
  | untouched (files : ∀ place, after.files.fileAt? place = before.files.fileAt? place)
  /-- The disk took no more than the first bytes of the source file. -/
  | sourceCut {source target : Catalog} (merging : project.Merging before source target)
      (space : problem
        = .file (project.locales.pathOf project.locales.sourceLanguage) .noSpace)
      (short : project.locales.CutShort project.locales.sourceLanguage
        (project.mergedOf outcomes before source target).source.text before.files after.files)
  /-- The source file was written, and the target file was not. -/
  | half {source target : Catalog} (merging : project.Merging before source target)
      (half : project.HalfWritten outcomes before after source target)
  /-- The source file was written, and the first bytes of the target file. -/
  | targetCut {source target : Catalog} (merging : project.Merging before source target)
      (space : problem
        = .file (project.locales.pathOf project.locales.targetLanguage) .noSpace)
      (cut : project.TargetCut outcomes before after source target)

/-- **What a failed reconciliation changes**: never the index or its version, and no file but the
source file, which is written first, and a file that the disk took no more than the first bytes
of. -/
theorem unchanged_of_reconcile_error
    (h : (project.reconcile outcomes).runOn before = (.error problem, after)) :
    after.index = before.index ∧ after.version = before.version
      ∧ project.Left outcomes problem before after := by
  obtain ⟨hrun, hindex, hversion⟩ := run_of_reconcile_error h
  refine ⟨hindex, hversion, ?_⟩
  cases Reconciliation.failed_of_run hrun with
  | untouched files => exact .untouched files.fileAt?
  | sourceCut hsource htarget _ space short => exact .sourceCut ⟨hsource, htarget⟩ space short
  | @sourceSaved source target written middle hsource htarget saved failed =>
    have hmiddle := Locales.readText_of_save saved
    have hdirectory := (Locales.keepsBut_of_save saved).workingDirectory
    rcases Locales.sameFiles_or_cutShort_of_save_error failed with files | ⟨space, short⟩
    · refine .half ⟨hsource, htarget⟩ ⟨files.readText hmiddle, fun place hne => ?_⟩
      rw [files.fileAt?, Locales.fileAt?_of_save saved hne]
    · obtain ⟨count, stamp, hcount, hfile⟩ := short.file
      have hkeeps := short.keeps
      rw [hdirectory] at hkeeps hfile
      refine .targetCut ⟨hsource, htarget⟩ space ⟨fun apart => ?_, ⟨count, stamp, hcount, hfile⟩,
        fun place hsourcePlace htargetPlace => ?_⟩
      · refine FileTree.readText_of_keepsBut hkeeps ?_ hmiddle
        rw [hdirectory]
        exact apart
      · rw [← hdirectory] at htargetPlace
        rw [short.others place htargetPlace, Locales.fileAt?_of_save saved hsourcePlace]

/-! ## Half a reconciliation -/

/-- The small project with its target file in a directory that is not there. -/
def smallNested : Project :=
  { small with settings := { small.settings with targetLanguage := "sub/en" } }

/-- The outcome of the one phrase of the small project. -/
def smallOutcome : Outcome := ⟨"你好", "default", "hello", "hello", false⟩

/-- The small project after a reconciliation that failed. -/
def smallHalf : Session :=
  ((smallNested.reconcile [smallOutcome]).runOn (smallStart [])).2

theorem runOn_reconcile_smallNested :
    (smallNested.reconcile [smallOutcome]).runOn (smallStart [])
      = (.error (.file "/p/locales/sub/en.json" .notFound), smallHalf) := by
  refine Prod.ext ?_ rfl
  decide +kernel

/-- The source file, which was not there, is there. -/
theorem fileAt?_smallHalf : smallHalf.files.fileAt? ["p", "locales", "zh.json"]
    ≠ (smallStart []).files.fileAt? ["p", "locales", "zh.json"] := by decide +kernel

/-- The small project on a disk that takes four bytes of the next write. -/
def smallFull : Session :=
  { smallStart [] with files := { (smallStart []).files with shortWrites := [(1, 4)] } }

/-- The small project after a reconciliation for which there was no space. -/
def smallCut : Session := ((small.reconcile [smallOutcome]).runOn smallFull).2

theorem runOn_reconcile_smallFull :
    (small.reconcile [smallOutcome]).runOn smallFull
      = (.error (.file "/p/locales/zh.json" .noSpace), smallCut) := by
  refine Prod.ext ?_ rfl
  decide +kernel

/-- The small project is left half written, or with four bytes of its source file. -/
theorem left_small_of_reconcile_error :
    smallHalf.index = (smallStart []).index ∧ smallHalf.version = 0
      ∧ (∃ source target,
        smallNested.HalfWritten [smallOutcome] (smallStart []) smallHalf source target)
      ∧ smallCut.index = (smallStart []).index ∧ smallCut.version = 0
      ∧ small.Left [smallOutcome] (.file "/p/locales/zh.json" .noSpace) smallFull smallCut
      ∧ smallCut.files.fileAt? ["p", "locales", "zh.json"] = some (.text "\x7b\n  ", 1) := by
  obtain ⟨hindex, hversion, hleft⟩ := unchanged_of_reconcile_error runOn_reconcile_smallNested
  obtain ⟨hindexCut, hversionCut, hleftCut⟩ := unchanged_of_reconcile_error runOn_reconcile_smallFull
  refine ⟨hindex, hversion, ?_, hindexCut, hversionCut, hleftCut, by decide +kernel⟩
  cases hleft with
  | untouched files => exact absurd (files _) fileAt?_smallHalf
  | sourceCut _ space => exact absurd space (by decide)
  | half _ half => exact ⟨_, _, half⟩
  | targetCut _ space => exact absurd space (by decide)

/-- **The first save stays when the second one fails**, with valid settings too. -/
theorem not_unchanged_of_reconcile_error :
    ¬∀ (project : Project) (outcomes : List Outcome) (problem : Problem) (before after : Session),
      project.settings.fault? = none →
      (project.reconcile outcomes).runOn before = (.error problem, after) →
      (∀ place, after.files.fileAt? place = before.files.fileAt? place)
        ∧ after.index = before.index ∧ after.version = before.version := by
  intro hall
  have hvalid : smallNested.settings.fault? = none := by decide +kernel
  exact fileAt?_smallHalf ((hall _ _ _ _ _ hvalid runOn_reconcile_smallNested).1 _)

end Phrasebook.Project
