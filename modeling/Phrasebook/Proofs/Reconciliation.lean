import Phrasebook.Reconciliation
import Phrasebook.Proofs.Locales
import Phrasebook.Proofs.MergedIndex

/-!
# Reconciled locale files

A reconciliation loads two catalogs, merges them and saves both. If the locale files are different
files, each holds its merged catalog afterwards; a reconciliation that says it wrote nothing leaves
all files as they are, whatever the files are.

Results:
* `Reconciliation.holds_source_of_run`, `Reconciliation.holds_target_of_run`: the merged catalogs
  are loaded again.
* `Reconciliation.runOn_of_run_eq`: a merge that changes nothing writes nothing.
* `Reconciliation.eq_of_not_isWritten`: nothing written, nothing changed.
* `Reconciliation.failed_of_run`: what a reconciliation leaves that ends with a problem.
* `Reconciliation.standing?_of_run`: the catalogs that a reconciliation can leave, however it ends.
-/

namespace Phrasebook.Reconciliation

variable {locales : Locales} {rule : Merge} {outcomes : List Outcome} {survey : Survey}
  {before after : FileTree} {reconciliation : Reconciliation} {source target : Catalog}

/-- The merged catalogs of a reconciliation. -/
def merged (rule : Merge) (outcomes : List Outcome) (survey : Survey) (source target : Catalog) :
    Merged :=
  (ruleAfter rule survey).run outcomes survey.used source target

/-- The steps of a successful reconciliation. -/
theorem exists_of_run
    (h : (run locales rule outcomes survey).runOn before = (.ok reconciliation, after)) :
    ∃ source target middle, locales.Holds locales.sourceLanguage before source
      ∧ locales.Holds locales.targetLanguage before target
      ∧ (locales.save locales.sourceLanguage
          (merged rule outcomes survey source target).source).runOn before
            = (.ok reconciliation.sourceWritten, middle)
      ∧ (locales.save locales.targetLanguage
          (merged rule outcomes survey source target).target).runOn middle
            = (.ok reconciliation.targetWritten, after)
      ∧ reconciliation.pruned = (merged rule outcomes survey source target).pruned
      ∧ reconciliation.pruneSkipped = (rule.prune && !survey.isComplete) := by
  unfold run at h
  obtain ⟨source, _, hsource, hafterSource⟩ := FileAction.exists_of_runOn_bind h
  obtain ⟨hsource, rfl⟩ := Locales.runOn_load_eq_ok_iff.1 hsource
  obtain ⟨target, _, htarget, hafterTarget⟩ := FileAction.exists_of_runOn_bind hafterSource
  obtain ⟨htarget, rfl⟩ := Locales.runOn_load_eq_ok_iff.1 htarget
  obtain ⟨sourceWritten, middle, hsaveSource, hsaved⟩ := FileAction.exists_of_runOn_bind hafterTarget
  obtain ⟨targetWritten, _, hsaveTarget, hreport⟩ := FileAction.exists_of_runOn_bind hsaved
  cases hreport
  exact ⟨source, target, middle, hsource, htarget, hsaveSource, hsaveTarget, rfl, rfl⟩

theorem workingDirectory_of_run
    (h : (run locales rule outcomes survey).runOn before = (.ok reconciliation, after)) :
    after.workingDirectory = before.workingDirectory := by
  obtain ⟨source, target, middle, -, -, hsource, htarget, -⟩ := exists_of_run h
  exact (Locales.keepsBut_of_save htarget).workingDirectory.trans
    (Locales.keepsBut_of_save hsource).workingDirectory

/-- **The source file has the text of the merged source catalog afterwards.** -/
theorem readText_source_of_run (apart : locales.Apart before.workingDirectory)
    (h : (run locales rule outcomes survey).runOn before = (.ok reconciliation, after))
    (hsource : locales.Holds locales.sourceLanguage before source)
    (htarget : locales.Holds locales.targetLanguage before target) :
    after.readText (locales.pathOf locales.sourceLanguage)
      = .ok (merged rule outcomes survey source target).source.text := by
  obtain ⟨source', target', middle, hsource', htarget', hsaveSource, hsaveTarget, -⟩ :=
    exists_of_run h
  obtain rfl := hsource.unique hsource'
  obtain rfl := htarget.unique htarget'
  have hkeeps := Locales.keepsBut_of_save hsaveTarget
  rw [(Locales.keepsBut_of_save hsaveSource).workingDirectory] at hkeeps
  -- The second save leaves the file of the first one as it is.
  refine FileTree.readText_of_keepsBut hkeeps ?_ (Locales.readText_of_save hsaveSource)
  rw [(Locales.keepsBut_of_save hsaveSource).workingDirectory]
  exact apart

/-- **The target file has the text of the merged target catalog afterwards.** -/
theorem readText_target_of_run
    (h : (run locales rule outcomes survey).runOn before = (.ok reconciliation, after))
    (hsource : locales.Holds locales.sourceLanguage before source)
    (htarget : locales.Holds locales.targetLanguage before target) :
    after.readText (locales.pathOf locales.targetLanguage)
      = .ok (merged rule outcomes survey source target).target.text := by
  obtain ⟨source', target', middle, hsource', htarget', -, hsaveTarget, -⟩ := exists_of_run h
  obtain rfl := hsource.unique hsource'
  obtain rfl := htarget.unique htarget'
  exact Locales.readText_of_save hsaveTarget

/-- If the two languages share a file, it has the text of the merged target catalog afterwards,
which was saved last. -/
theorem readText_source_of_run_of_not_apart (shared : ¬locales.Apart before.workingDirectory)
    (h : (run locales rule outcomes survey).runOn before = (.ok reconciliation, after))
    (hsource : locales.Holds locales.sourceLanguage before source)
    (htarget : locales.Holds locales.targetLanguage before target) :
    after.readText (locales.pathOf locales.sourceLanguage)
      = .ok (merged rule outcomes survey source target).target.text := by
  have hread := readText_target_of_run h hsource htarget
  have hdirectory := workingDirectory_of_run h
  obtain ⟨_, _, middle, -, -, hsaveSource, hsaveTarget, -⟩ := exists_of_run h
  -- Both paths can be followed afterwards, and lead to places with one key.
  obtain ⟨place, _, hresolve, hsaved⟩ :=
    FileTree.readText_eq_ok_iff.1 (Locales.readText_of_save hsaveSource)
  obtain ⟨other, stamp, hother, hentry⟩ := FileTree.readText_eq_ok_iff.1 hread
  have hresolveAfter := (Locales.keepsBut_of_save hsaveTarget).resolve hresolve
  have hkey : FileTree.keyOf place = FileTree.keyOf other := by
    have hsame := Decidable.not_not.1 shared
    unfold Locales.fileKey at hsame
    rwa [← hdirectory, ← FileTree.resolve_eq_placeOf hresolveAfter,
      ← FileTree.resolve_eq_placeOf hother] at hsame
  refine FileTree.readText_eq_ok_iff.2 ⟨place, stamp, hresolveAfter, ?_⟩
  rw [after.entryAt?_of_keyOf_eq (FileTree.isEmpty_of_entryAt? hsaved)
    (FileTree.isEmpty_of_entryAt? hentry) hkey, hentry]

/-- **The source file holds the merged source catalog afterwards.** -/
theorem holds_source_of_run (apart : locales.Apart before.workingDirectory)
    (h : (run locales rule outcomes survey).runOn before = (.ok reconciliation, after))
    (hsource : locales.Holds locales.sourceLanguage before source)
    (htarget : locales.Holds locales.targetLanguage before target) :
    locales.Holds locales.sourceLanguage after
      (merged rule outcomes survey source target).source :=
  Locales.holds_of_readText (readText_source_of_run apart h hsource htarget)

/-- **The target file holds the merged target catalog afterwards.** -/
theorem holds_target_of_run
    (h : (run locales rule outcomes survey).runOn before = (.ok reconciliation, after))
    (hsource : locales.Holds locales.sourceLanguage before source)
    (htarget : locales.Holds locales.targetLanguage before target) :
    locales.Holds locales.targetLanguage after
      (merged rule outcomes survey source target).target :=
  Locales.holds_of_readText (readText_target_of_run h hsource htarget)

/-- A catalog is loaded from the source file afterwards, also if the two languages share it. -/
theorem exists_holds_source_of_run
    (h : (run locales rule outcomes survey).runOn before = (.ok reconciliation, after)) :
    ∃ sourceAfter, locales.Holds locales.sourceLanguage after sourceAfter := by
  obtain ⟨source, target, -, hsource, htarget, -⟩ := exists_of_run h
  by_cases apart : locales.Apart before.workingDirectory
  · exact ⟨_, holds_source_of_run apart h hsource htarget⟩
  · exact ⟨_, Locales.holds_of_readText (readText_source_of_run_of_not_apart apart h hsource htarget)⟩

/-- **Catalogs that a merge gives back are not written again**, if their files have their texts. -/
theorem runOn_of_run_eq {files : FileTree}
    (hsource : files.readText (locales.pathOf locales.sourceLanguage) = .ok source.text)
    (htarget : files.readText (locales.pathOf locales.targetLanguage) = .ok target.text)
    (hmerged : merged rule outcomes survey source target = ⟨source, target, 0⟩) :
    (run locales rule outcomes survey).runOn files
      = (.ok ⟨false, false, 0, rule.prune && !survey.isComplete⟩, files) := by
  have hloadSource : locales.loadSource.runOn files = (.ok source, files) :=
    Locales.runOn_load_eq_ok_iff.2 ⟨Locales.holds_of_readText hsource, rfl⟩
  have hloadTarget : locales.loadTarget.runOn files = (.ok target, files) :=
    Locales.runOn_load_eq_ok_iff.2 ⟨Locales.holds_of_readText htarget, rfl⟩
  unfold merged at hmerged
  unfold run
  rw [FileAction.runOn_bind_of_runOn hloadSource, FileAction.runOn_bind_of_runOn hloadTarget,
    hmerged]
  dsimp only
  rw [FileAction.runOn_bind_of_runOn (Locales.runOn_save_of_readText hsource),
    FileAction.runOn_bind_of_runOn (Locales.runOn_save_of_readText htarget)]
  rfl

/-- **Nothing written, nothing changed.** -/
theorem eq_of_not_isWritten
    (h : (run locales rule outcomes survey).runOn before = (.ok reconciliation, after))
    (hwritten : reconciliation.isWritten = false) : after = before := by
  obtain ⟨source, target, middle, -, -, hsaveSource, hsaveTarget, -⟩ := exists_of_run h
  obtain ⟨hsourceWritten, htargetWritten⟩ := Bool.or_eq_false_iff.1 hwritten
  rw [hsourceWritten] at hsaveSource
  rw [htargetWritten] at hsaveTarget
  rw [Locales.eq_of_save_false hsaveTarget, Locales.eq_of_save_false hsaveSource]

/-! ## Problems -/

/-- What was done when a reconciliation ended with a problem. The catalogs are saved one after the
other, and the first one stays when the second one fails. A save that fails leaves its file as it
was or cut short. -/
inductive Failed (locales : Locales) (rule : Merge) (outcomes : List Outcome) (survey : Survey)
    (problem : Problem) (before after : FileTree) : Prop where
  | untouched (files : FileTree.SameFiles before after)
  | sourceCut {source target : Catalog}
      (sourceBefore : locales.Holds locales.sourceLanguage before source)
      (targetBefore : locales.Holds locales.targetLanguage before target)
      (failed : (locales.save locales.sourceLanguage
        (merged rule outcomes survey source target).source).runOn before = (.error problem, after))
      (space : problem = .file (locales.pathOf locales.sourceLanguage) .noSpace)
      (short : locales.CutShort locales.sourceLanguage
        (merged rule outcomes survey source target).source.text before after)
  | sourceSaved {source target : Catalog} {written : Bool} {middle : FileTree}
      (sourceBefore : locales.Holds locales.sourceLanguage before source)
      (targetBefore : locales.Holds locales.targetLanguage before target)
      (saved : (locales.save locales.sourceLanguage
        (merged rule outcomes survey source target).source).runOn before = (.ok written, middle))
      (failed : (locales.save locales.targetLanguage
        (merged rule outcomes survey source target).target).runOn middle = (.error problem, after))

/-- **A reconciliation that ends with a problem** leaves all files as they were, unless it is a save
that failed. -/
theorem failed_of_run {problem : Problem}
    (h : (run locales rule outcomes survey).runOn before = (.error problem, after)) :
    Failed locales rule outcomes survey problem before after := by
  have hload : ∀ {language : String} {found : Except Problem Catalog} {files : FileTree},
      (locales.load language).runOn before = (found, files) → files = before := by
    intro language found files hrun
    rw [Locales.runOn_load] at hrun
    exact (Prod.mk.inj hrun).2.symm
  unfold run at h
  rcases FileAction.runOn_bind_eq_error h with hsource | ⟨source, _, hsource, hafterSource⟩
  · obtain rfl := hload hsource
    exact .untouched (.refl after)
  obtain ⟨hsource, rfl⟩ := Locales.runOn_load_eq_ok_iff.1 hsource
  rcases FileAction.runOn_bind_eq_error hafterSource with htarget | ⟨target, _, htarget, hloaded⟩
  · obtain rfl := hload htarget
    exact .untouched (.refl after)
  obtain ⟨htarget, rfl⟩ := Locales.runOn_load_eq_ok_iff.1 htarget
  rcases FileAction.runOn_bind_eq_error hloaded with hfirst | ⟨written, middle, hfirst, hsaved⟩
  · rcases Locales.sameFiles_or_cutShort_of_save_error hfirst with files | ⟨space, short⟩
    · exact .untouched files
    · exact .sourceCut hsource htarget hfirst space short
  rcases FileAction.runOn_bind_eq_error hsaved with hsecond | ⟨_, _, _, hreport⟩
  · exact .sourceSaved hsource htarget hfirst hsecond
  · cases hreport

/-- **What a reconciliation can leave for a language**, however it ends: the catalog that stood
there, one of the merged catalogs, or the empty one. -/
theorem standing?_of_run {found : Except Problem Reconciliation}
    (h : (run locales rule outcomes survey).runOn before = (found, after)) (language : String) :
    locales.standing? language after = locales.standing? language before
      ∨ ∃ source target, locales.Holds locales.sourceLanguage before source
        ∧ locales.Holds locales.targetLanguage before target
        ∧ ∀ read, locales.standing? language after = some read →
          read = Catalog.empty ∨ read = (merged rule outcomes survey source target).source
            ∨ read = (merged rule outcomes survey source target).target := by
  cases found with
  | ok reconciliation =>
    obtain ⟨source, target, middle, hsource, htarget, hfirst, hsecond, -⟩ := exists_of_run h
    exact (Locales.standing?_of_saves hfirst hsecond language).imp_right fun hread =>
      ⟨source, target, hsource, htarget, hread⟩
  | error problem =>
    cases failed_of_run h with
    | untouched files => exact .inl (Locales.standing?_of_sameFiles files language)
    | @sourceCut source target hsource htarget failed =>
      exact (Locales.standing?_of_save failed language).imp_right fun hread =>
        ⟨source, target, hsource, htarget, fun read hstanding =>
          (hread read hstanding).imp_right .inl⟩
    | @sourceSaved source target _ _ hsource htarget hfirst hsecond =>
      exact (Locales.standing?_of_saves hfirst hsecond language).imp_right fun hread =>
        ⟨source, target, hsource, htarget, hread⟩

end Phrasebook.Reconciliation
