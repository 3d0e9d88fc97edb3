import Phrasebook.Proofs.AnsweredPhrases
import Phrasebook.Proofs.Key
import Phrasebook.Proofs.LiveReferences

/-!
# A second sync

A sync that ends with success has left no phrase in use without a key (`Project.answered_of_sync`),
and so has brought the locale files to rest. If neither the sources nor the locale files are touched
afterwards, another sync finds a key for every phrase, asks for no translation, and its
reconciliation writes nothing and removes nothing.

The first sync may find fewer sources than the second, though nobody touched them: it makes the
directory of the locale files, and an included path that leads through this directory is missing
before. So the theorem asks for the same sources (`Project.syncsIdly_of_sync`), and a project with
such a path shows that it has to (`Project.not_syncsIdly_of_sync`).

Results:
* `Project.answered_of_sync`: what a sync comes to that leaves nothing to do.
* `Project.syncsIdly_of_answered`: a sync of locale files at rest.
* `Project.syncsIdly_of_sync`: a second sync does nothing.
-/

namespace Phrasebook.Project

open HostAction Desk SessionAction

variable {project : Project} {translator : Translator} {files later : FileTree}
  {start before after : Session} {feed : Feed} {outcomes : List Outcome}
  {source target : Catalog} {console : Console} {desk : Desk}

/-! ## What a sync comes to -/

/-- **A sync reconciles once**, with the outcomes of its flush or, if the flush did not reconcile,
without any. -/
theorem exists_reconciled {fed flushed synced : Session} {flush : Flush} {told toldAfter : Desk}
    {reconciliation : Reconciliation}
    (hflush : (project.flush translator).runOn fed = (.ok flush, flushed))
    (hsync : runOn (Sync.reconciliationAfter project flush) { flushed with notices := [] } told
      = (.ok reconciliation, synced, toldAfter)) :
    ∃ outcomes before, before.files = fed.files ∧ before.index = fed.index
      ∧ (outcomes = [] ∨ outcomes = project.outcomesOf translator fed)
      ∧ project.Reconciled outcomes before synced reconciliation := by
  rcases (reconciled_of_reconciliationAfter hsync).2 with
    ⟨hsome, rfl⟩ | ⟨hnone, reconciled, hrun, rfl⟩
  · cases ended_of_flush hflush with
    | idle => cases hsome
    | late => cases hsome
    | untranslated => cases hsome
    | reconciled _ _ _ hreconcile =>
      cases hsome
      have h := reconciled_of_reconcile hreconcile
      exact ⟨_, unpended fed, rfl, rfl, .inr rfl, h.files, h.pending, h.refreshed, h.unwritten⟩
  · have h := reconciled_of_reconcile hrun
    obtain ⟨hfiles, hindex⟩ := eq_of_reconciliation_eq_none hflush hnone
    exact ⟨_, _, hfiles, hindex, .inl rfl, h.files, h.pending, h.refreshed, h.unwritten⟩

/-- The sources were fed, the locale files reconciled and the affected files fed again, and nothing
is left to do. -/
structure Cleared (project : Project) (translator : Translator) (files : FileTree) (fed : Session)
    (feed : Feed) (outcomes : List Outcome) (before : Session) (affected : List String)
    (synced after : Session) (feedAfter : Feed) : Prop where
  sources : project.FedSources files fed feed
  files : before.files = files
  index : before.index = fed.index
  given : outcomes = [] ∨ outcomes = project.outcomesOf translator fed
  reconciled : ∃ reconciliation, project.Reconciled outcomes before synced reconciliation
  again : project.FedAll affected synced feed after feedAfter
  done : feedAfter.Done

namespace Cleared

variable {fed synced : Session} {affected : List String} {feedAfter : Feed}

variable (h : project.Cleared translator files fed feed outcomes before affected synced after
  feedAfter)
include h

theorem mem_outcomesOf {outcome : Outcome} (hmem : outcome ∈ outcomes) :
    outcome ∈ project.outcomesOf translator fed := by
  rcases h.given with hnone | hsome
  · rw [hnone] at hmem
    cases hmem
  · exact hsome ▸ hmem

/-- Each source file has a rewriting with nothing unresolved, by the index at the start or by that
at the end. -/
theorem exists_rewrite {file : String} (hmem : file ∈ project.searched files) :
    ∃ unit rewriting, unit.path = file ∧ project.scope.Reads files unit
      ∧ rewriting.unresolved = []
      ∧ (project.rules.rewrite before.index unit = .ok rewriting
        ∨ project.rules.rewrite after.index unit = .ok rewriting) := by
  have hrequested := h.again.requested
  have hcovers := h.again.covers (.inr (h.sources.covers file hmem))
  -- No file failed, so that the file has an output.
  obtain ⟨rewriting, houtput⟩ : ∃ rewriting, feedAfter.outputs.get? file = some rewriting := by
    rcases hcovers with houtput | ⟨failure, hfailure, -⟩
    · exact Option.isSome_iff_exists.1 houtput
    · rw [h.done.failures] at hfailure
      cases hfailure
  have hnothing := h.done.unresolved file rewriting houtput
  by_cases hfed : file ∈ affected
  · obtain ⟨unit, hpath, hread, hrewrite, -⟩ :=
      h.again.upToDate (fun hnot => absurd hfed hnot) rewriting houtput
    obtain ⟨reconciliation, hreconciled⟩ := h.reconciled
    rw [hrequested.files] at hread
    refine ⟨unit, rewriting, hpath, ?_, hnothing, .inr hrewrite⟩
    refine h.sources.reads_of_reads (fun hsearched hfirst => ?_) (hpath ▸ hmem) hread
    rw [← h.files] at hsearched hfirst
    exact hreconciled.reads hsearched hfirst
  · rw [h.again.get?_outputs_of_not_mem hfed] at houtput
    obtain ⟨unit, hpath, hread, hrewrite, -⟩ := h.sources.upToDate file rewriting houtput
    rw [h.sources.unchanged] at hread
    rw [← h.index] at hrewrite
    exact ⟨unit, rewriting, hpath, hread, hnothing, .inl hrewrite⟩

/-- Every file can be searched. -/
theorem searchable : project.Searchable before.files := by
  rw [h.files]
  intro file hmem hvendored
  obtain ⟨unit, rewriting, rfl, hread, -, hrewrite⟩ := h.exists_rewrite hmem
  rw [SourceScope.callsOf_of_reads _ hread]
  have hcalls : ∀ {index}, project.rules.rewrite index unit = .ok rewriting →
      ∃ calls, project.rules.find unit = .ok calls := by
    intro index hrewrite
    rcases MarkerRules.rewrite_eq_ok_iff.1 hrewrite with ⟨hcontra, -⟩ | ⟨-, calls, hknown, -⟩
    · rw [hvendored] at hcontra
      cases hcontra
    · exact ⟨calls, (MarkerRules.findKnown_eq_ok_iff.1 hknown).1⟩
  exact hrewrite.elim hcalls hcalls

/-- A phrase in use has a key by the index at the start or by that at the end. -/
theorem exists_lookup?_or {ns phrase : String} (hfinds : project.Finds before.files ns phrase) :
    (∃ key, before.index.lookup? ns phrase = some key)
      ∨ ∃ key, after.index.lookup? ns phrase = some key := by
  rw [h.files] at hfinds
  obtain ⟨-, file, hmem, hvendored, calls, hcallsOf, call, hcall, rfl, rfl⟩ := hfinds
  obtain ⟨unit, rewriting, rfl, hread, hnothing, hrewrite⟩ := h.exists_rewrite hmem
  rw [SourceScope.callsOf_of_reads _ hread] at hcallsOf
  have hkey : ∀ {index}, project.rules.rewrite index unit = .ok rewriting →
      ∃ key, index.lookup? call.namespaceName call.phrase = some key := fun hrewrite =>
    Option.isSome_iff_exists.1
      (MarkerRules.isSome_lookup?_of_rewrite hrewrite hnothing hvendored hcallsOf hcall)
  exact hrewrite.imp hkey hkey

/-- **Every phrase in use has a key in the end**: one that had a key at the start was not translated,
and a key in use is left with the phrase that it carries. -/
theorem exists_lookup? {source target : Catalog}
    (hmerges : project.Merges outcomes before after source target) {ns phrase : String}
    (hfinds : project.Finds before.files ns phrase) :
    ∃ key, after.index.lookup? ns phrase = some key := by
  rcases h.exists_lookup?_or hfinds with ⟨key, hlookup⟩ | hanswer
  · have hnone : ∀ outcome ∈ outcomes, ¬(outcome.ns = ns ∧ outcome.phrase = phrase) := by
      rintro outcome hmem ⟨rfl, rfl⟩
      have hpending := mem_pairs_of_mem_outcomesOf (h.mem_outcomesOf hmem)
      rw [h.index, h.sources.settled.pending hpending] at hlookup
      cases hlookup
    have hkeeps : (project.ruleIn outcomes before).Keeps project.scope project.rules before.files
        (project.searched before.files) outcomes before.index source target ns key :=
      .inl ⟨phrase, .inr ⟨hfinds, (Survey.keyOf?_of_forall_ne hnone _).trans hlookup⟩⟩
    have hcarried := PhraseIndex.phraseForKey?_of_lookup? hlookup
    rw [hmerges.indexBefore] at hcarried
    obtain ⟨value, ⟨hvalue, hne⟩, hphrase⟩ :=
      PhraseIndex.phraseForKey?_ofCatalog_eq_some_iff.1 hcarried
    have hstays := (Merge.preserves_afterSurvey hkeeps).1.value value hvalue hne
    have hcarriedAfter : after.index.phraseForKey? ns key = some phrase := by
      rw [hmerges.indexAfter]
      exact PhraseIndex.phraseForKey?_ofCatalog_eq_some_iff.2 ⟨value, ⟨hstays, hne⟩, hphrase⟩
    exact PhraseIndex.exists_lookup? hcarriedAfter
  · exact hanswer

/-- Keys that are phrases stand for the phrases of their outcomes. -/
theorem unescape_key {source target : Catalog}
    (hmerges : project.Merges outcomes before after source target)
    (hlanguage : project.settings.keyLanguage = .source) {outcome : Outcome}
    (hmem : outcome ∈ outcomes) : Key.unescape outcome.key = outcome.phrase := by
  have hcarried : ∀ {catalog : Catalog} {ns key phrase},
      (project.indexOf catalog).phraseForKey? ns key = some phrase →
      Key.unescape key = phrase := by
    intro catalog ns key phrase hphrase
    obtain ⟨_, -, heq⟩ := PhraseIndex.phraseForKey?_ofCatalog_eq_some_iff.1 hphrase
    rw [hlanguage] at heq
    exact heq
  refine Outcome.unescape_key_of_mem_assignAfter (fun ns key phrase hphrase => ?_) (by simp)
    (fun candidate hcandidate => ?_) (h.mem_outcomesOf hmem)
  · rw [← h.index, hmerges.indexBefore] at hphrase
    exact hcarried hphrase
  · -- The phrase has a key in the end, so that it is the text of a key.
    have hpending : (candidate.phrase, candidate.ns) ∈ fed.pending.pairs :=
      (project.candidatesOf_sublist translator fed.pending).subset
        (List.mem_map_of_mem hcandidate)
    have hfinds := h.sources.found hpending
    rw [← h.files] at hfinds
    obtain ⟨key, hkey⟩ := h.exists_lookup? hmerges hfinds
    have hphrase := PhraseIndex.phraseForKey?_of_lookup? hkey
    rw [hmerges.indexAfter] at hphrase
    obtain ⟨translation, -, hsame⟩ := exists_of_mem_candidatesOf hcandidate
    rw [hsame]
    unfold Wording.candidate Wording.key Settings.wording
    dsimp only
    rw [hlanguage]
    dsimp only
    rw [← hcarried hphrase, Key.unescape_escape_unescape]

/-- Each source file can be rewritten with nothing unresolved in the end. -/
theorem exists_rewrite_last {source target : Catalog}
    (hmerges : project.Merges outcomes before after source target) {file : String}
    (hmem : file ∈ project.searched files) :
    ∃ unit rewriting, unit.path = file ∧ project.scope.Reads files unit
      ∧ project.rules.rewrite after.index unit = .ok rewriting ∧ rewriting.unresolved = [] := by
  obtain ⟨unit, first, rfl, hread, -, hrewrite⟩ := h.exists_rewrite hmem
  have hkeys : project.rules.isVendored unit.path = false →
      ∀ calls, project.rules.findKnown unit = .ok calls →
      ∀ call ∈ calls, (after.index.lookup? call.namespaceName call.phrase).isSome := by
    intro hvendored calls hcalls call hcall
    have hfinds : project.Finds before.files call.namespaceName call.phrase := by
      rw [h.files]
      exact finds_of_findKnown hmem hread hvendored hcalls hcall
    exact Option.isSome_iff_exists.2 (h.exists_lookup? hmerges hfinds)
  obtain ⟨rewriting, hlast, hnothing⟩ :
      ∃ rewriting, project.rules.rewrite after.index unit = .ok rewriting
        ∧ rewriting.unresolved = [] :=
    hrewrite.elim (fun hfirst => MarkerRules.exists_rewrite_of_isSome_lookup? hfirst hkeys)
      fun hfirst => MarkerRules.exists_rewrite_of_isSome_lookup? hfirst hkeys
  exact ⟨unit, rewriting, rfl, hread, hlast, hnothing⟩

/-- **Every phrase in use is answered.** -/
theorem exists_answered (apart : project.locales.Apart files.workingDirectory)
    (hvalues : ∀ phrase translation, (translator phrase).result = .ok translation →
      project.settings.wording.value translation ≠ project.settings.untranslated) :
    ∃ source target, project.Answered outcomes before after source target
      ∧ after.files.readText (project.locales.pathOf project.locales.sourceLanguage)
        = .ok (project.mergedOf outcomes before source target).source.text
      ∧ after.files.readText (project.locales.pathOf project.locales.targetLanguage)
        = .ok (project.mergedOf outcomes before source target).target.text := by
  obtain ⟨reconciliation, hreconciled⟩ := h.reconciled
  have hrequested := h.again.requested
  have current : project.IsCurrent before := by
    have hfed := h.sources.settled.current
    unfold IsCurrent at hfed ⊢
    rw [h.sources.unchanged] at hfed
    rw [h.files, h.index]
    exact hfed
  rw [← h.files] at apart
  obtain ⟨source, target, hsynced⟩ := hreconciled.merges apart current
  have hmerges : project.Merges outcomes before after source target := by
    refine ⟨hsynced.sourceBefore, hsynced.targetBefore, hsynced.indexBefore, ?_, ?_, ?_⟩
    · rw [hrequested.files]
      exact hsynced.sourceAfter
    · rw [hrequested.files]
      exact hsynced.targetAfter
    · rw [hrequested.index]
      exact hsynced.indexAfter
  refine ⟨source, target, ⟨hmerges, h.searchable, ?_, ?_, ?_, ?_, ?_, ?_⟩, ?_, ?_⟩
  · rcases h.given with hnone | hsome
    · rw [hnone]
      exact Outcome.unshared_nil _
    · rw [hsome, h.index]
      exact Outcome.unshared_assign _ _
  · exact fun first hfirst second hsecond =>
      eq_of_mem_outcomesOf (h.mem_outcomesOf hfirst) (h.mem_outcomesOf hsecond)
  · intro outcome hmem
    rw [h.files]
    exact h.sources.found (mem_pairs_of_mem_outcomesOf (h.mem_outcomesOf hmem))
  · intro outcome hmem
    obtain ⟨phrase, translation, hresult, hvalue⟩ :=
      exists_value_of_mem_outcomesOf (h.mem_outcomesOf hmem)
    rw [hvalue]
    exact hvalues phrase translation hresult
  · exact fun hlanguage outcome hmem => h.unescape_key hmerges hlanguage hmem
  · exact h.exists_lookup? hmerges
  · rw [hrequested.files]
    exact Reconciliation.readText_source_of_run apart hreconciled.files hsynced.sourceBefore
      hsynced.targetBefore
  · rw [hrequested.files]
    exact Reconciliation.readText_target_of_run hreconciled.files hsynced.sourceBefore
      hsynced.targetBefore

end Cleared

/-- A sync that ends with success has left nothing to do. -/
theorem exists_cleared_of_sync (hstart : project.start files = .ok start)
    (apart : project.locales.Apart files.workingDirectory)
    (h : runOn (Sync.action project translator) start ⟨console, Feed.empty⟩
      = (.ok .success, after, desk)) :
    ∃ fed feed outcomes before affected synced,
      project.Cleared translator files fed feed outcomes before affected synced after
        desk.feed := by
  obtain ⟨fed, fedDesk, flush, flushed, told, reconciliation, synced, syncedDesk, hfeed, hflush,
    hsync, hfedAll, hstatus⟩ := exists_of_sync h
  have hfed := fed_of_feedSources hstart apart hfeed
  obtain ⟨outcomes, before, hfiles, hindex, hgiven, hreconciled⟩ := exists_reconciled hflush hsync
  have hdone : desk.feed.Done := by
    rw [Feed.done_iff]
    have hclean := hstatus rfl
    unfold Sync.isClean at hclean
    simp only [Bool.and_eq_true, List.isEmpty_iff] at hclean
    exact ⟨hclean.1.1.2, hclean.1.1.1⟩
  exact ⟨fed, fedDesk.feed, outcomes, before, flush.affected.keys, synced, hfed,
    hfiles.trans hfed.unchanged, hindex, hgiven, ⟨reconciliation, hreconciled⟩, hfedAll, hdone⟩

/-! ## A sync with nothing to do -/

/-- Neither the sources nor the locale files were touched. -/
structure Untouched (project : Project) (files later : FileTree) : Prop where
  searched : project.searched later = project.searched files
  sources : ∀ file ∈ project.searched files,
    later.readText (project.scope.resolve file) = files.readText (project.scope.resolve file)
  sourceFile : later.readText (project.locales.pathOf project.locales.sourceLanguage)
    = files.readText (project.locales.pathOf project.locales.sourceLanguage)
  targetFile : later.readText (project.locales.pathOf project.locales.targetLanguage)
    = files.readText (project.locales.pathOf project.locales.targetLanguage)

/-- A sync that does nothing. -/
structure SyncsIdly (project : Project) (translator : Translator) (start : Session) (desk : Desk) :
    Prop where
  /-- Once the sources are fed, the flush requests no translation and does not reconcile, and the
  reconciliation after it writes nothing and removes nothing. -/
  idle : ∃ fed fedDesk flush flushed,
    runOn project.feedSources start desk = (.ok (), fed, fedDesk)
      ∧ (project.flush translator).runOn fed = (.ok flush, flushed)
      ∧ flush.requested = 0 ∧ flush.reconciliation = none
      ∧ ∀ told, (runOn (Sync.reconciliationAfter project flush)
          { flushed with notices := [] } told).1 = .ok ⟨false, false, 0, false⟩
  success : ∃ after deskAfter,
    runOn (Sync.action project translator) start desk = (.ok .success, after, deskAfter)
      ∧ after.files = start.files

/-- A reconciliation without outcomes, when the merge has nothing to do. -/
theorem runOn_reconcile_of_rests {session : Session} (searchable : project.Searchable session.files)
    (hsource : session.files.readText (project.locales.pathOf project.locales.sourceLanguage)
      = .ok source.text)
    (htarget : session.files.readText (project.locales.pathOf project.locales.targetLanguage)
      = .ok target.text)
    (hrests : (project.ruleIn [] session).Rests (project.surveyOf [] session).used source target) :
    (project.reconcile []).runOn session
      = (.ok ⟨false, false, 0, false⟩,
        { session with notices := session.notices ++ project.scope.warnings session.files }) := by
  have hcomplete : (project.surveyOf [] session).isComplete = true :=
    (Survey.isComplete_ofFiles _ _ _ _ _).2 searchable
  have hrun := Reconciliation.runOn_of_run_eq hsource htarget hrests.run_eq
  rw [hcomplete, Bool.not_true, Bool.and_false] at hrun
  unfold reconcile
  rw [SessionAction.runOn_bind_of_runOn (project.runOn_survey [] session)]
  have hfiles := runOn_onFiles
    (Reconciliation.run project.locales project.settings.merge [] (project.surveyOf [] session))
    { session with notices := session.notices ++ project.scope.warnings session.files }
  dsimp only at hfiles
  rw [hrun] at hfiles
  rw [SessionAction.runOn_bind_of_runOn hfiles]
  rfl

/-- The flush of nothing. -/
def noFlush : Flush := ⟨0, [], [], [], Dictionary.empty, false, none⟩

theorem runOn_flush_of_pending_eq_empty {session : Session}
    (h : session.pending = Pending.empty) :
    (project.flush translator).runOn session = (.ok noFlush, session) := by
  rcases session with ⟨files, index, pending, version, now, ticker, notices⟩
  obtain rfl : pending = Pending.empty := h
  rw [runOn_flush]
  rfl

/-- **A sync of locale files at rest does nothing**, if every source file can be rewritten with
nothing unresolved. -/
theorem syncsIdly_of_rests {session : Session} (hpending : session.pending = Pending.empty)
    (hsources : ∀ file ∈ project.searched session.files, ∃ unit rewriting, unit.path = file
      ∧ project.scope.Reads session.files unit
      ∧ project.rules.rewrite session.index unit = .ok rewriting ∧ rewriting.unresolved = [])
    (searchable : project.Searchable session.files)
    (hsource : session.files.readText (project.locales.pathOf project.locales.sourceLanguage)
      = .ok source.text)
    (htarget : session.files.readText (project.locales.pathOf project.locales.targetLanguage)
      = .ok target.text)
    (hrests : (project.ruleIn [] session).Rests (project.surveyOf [] session).used source target) :
    project.SyncsIdly translator session ⟨console, Feed.empty⟩ := by
  let fed : Session := { session with notices := [] }
  let told := console.notice (session.notices ++ project.scope.warnings session.files)
  have hlook : runOn (work project.sourceFiles) session ⟨console, Feed.empty⟩
      = (.ok (project.searched session.files), fed, ⟨told, Feed.empty⟩) := by
    rw [runOn_work]
    rfl
  obtain ⟨feed, hfeedFiles, hdone⟩ : ∃ feed,
      runOn (feedFiles project .development (project.searched session.files)) fed ⟨told, Feed.empty⟩
        = (.ok (), fed, ⟨told, feed⟩) ∧ feed.Done :=
    exists_runOn_feedFiles hsources Feed.done_empty
  have hflush : (project.flush translator).runOn fed = (.ok noFlush, fed) :=
    runOn_flush_of_pending_eq_empty hpending
  have hreconcile : (project.reconcile []).runOn fed = (.ok ⟨false, false, 0, false⟩,
      { fed with notices := [] ++ project.scope.warnings session.files }) :=
    runOn_reconcile_of_rests searchable hsource htarget hrests
  have hwork := exists_runOn_work hreconcile
  -- Nothing was flushed, so the sync reconciles on its own.
  have hafter : ∀ desk, ∃ deskAfter, deskAfter.feed = desk.feed
      ∧ runOn (Sync.reconciliationAfter project noFlush) fed desk
        = (.ok ⟨false, false, 0, false⟩, fed, deskAfter) := hwork
  constructor
  · refine ⟨fed, ⟨told, feed⟩, noFlush, fed, ?_, hflush, rfl, rfl, fun desk => ?_⟩
    · unfold feedSources
      rw [HostAction.runOn_bind_of_runOn hlook]
      exact hfeedFiles
    · obtain ⟨deskAfter, -, hrun⟩ := hafter desk
      exact congrArg Prod.fst hrun
  · unfold Sync.action
    rw [HostAction.runOn_bind_of_runOn hlook, HostAction.runOn_bind_of_runOn hfeedFiles,
      HostAction.runOn_bind_of_runOn (runOn_kept _ _),
      HostAction.runOn_bind_of_runOn (runOn_complain _ _ _)]
    obtain ⟨deskFlushed, hfeedFlushed, hflushed⟩ := exists_runOn_work hflush
      ⟨told.complain fun report => report.failures told.verbose feed.failures, feed⟩
    rw [HostAction.runOn_bind_of_runOn hflushed, HostAction.runOn_bind_of_runOn (runOn_tell _ _ _)]
    obtain ⟨deskSynced, hfeedSynced, hsynced⟩ := hafter
      { deskFlushed with console := deskFlushed.console.tell fun report => report.flush noFlush }
    rw [HostAction.runOn_bind_of_runOn hsynced, HostAction.runOn_bind_of_runOn (runOn_tell _ _ _)]
    have hfeed : deskSynced.feed = feed := hfeedSynced.trans hfeedFlushed
    obtain ⟨hfailures, hunresolved⟩ := Feed.done_iff.1 hdone
    have hclean : Sync.isClean deskSynced.feed noFlush = true := by
      unfold Sync.isClean
      rw [hfeed, hfailures, hunresolved]
      rfl
    have hagain : ∀ desk, runOn (feedFiles project .development noFlush.affected.keys) fed desk
        = (.ok (), fed, desk) := fun _ => rfl
    rw [HostAction.runOn_bind_of_runOn (hagain _),
      HostAction.runOn_bind_of_runOn (runOn_tellUnresolved_of_nil _ _ (hfeed ▸ hunresolved))]
    refine ⟨fed, _, Prod.ext ?_ rfl, rfl⟩
    show Except.ok (if Sync.isClean deskSynced.feed noFlush then _ else _) = _
    rw [if_pos hclean]

/-! ## The second sync -/

/-- **A second sync does nothing.** If a sync ended with success and found the same sources that
are there afterwards, and neither these nor the locale files were touched since, another sync
requests no translation, writes nothing and removes nothing, and ends with success too, whatever
its translator does. -/
theorem syncsIdly_of_sync (hstart : project.start files = .ok start)
    (apart : project.locales.Apart files.workingDirectory)
    (hvalues : ∀ phrase translation, (translator phrase).result = .ok translation →
      project.settings.wording.value translation ≠ project.settings.untranslated)
    (h : runOn (Sync.action project translator) start ⟨console, Feed.empty⟩
      = (.ok .success, after, desk))
    (hsame : project.searched after.files = project.searched files)
    (huntouched : project.Untouched after.files later) :
    ∃ again, project.start later = .ok again
      ∧ ∀ translator console, project.SyncsIdly translator again ⟨console, Feed.empty⟩ := by
  obtain ⟨fed, feed, outcomes, before, affected, synced, hcleared⟩ :=
    exists_cleared_of_sync hstart apart h
  obtain ⟨source, target, hanswered, hsource, htarget⟩ := hcleared.exists_answered apart hvalues
  rw [← huntouched.sourceFile] at hsource
  rw [← huntouched.targetFile] at htarget
  obtain ⟨again, hagain, hindex⟩ := exists_start (Locales.holds_of_readText hsource)
  obtain ⟨rfl, hpending, -⟩ := eq_of_start hagain
  rw [← hanswered.indexAfter] at hindex
  have hsearched : project.searched again.files = project.searched files :=
    huntouched.searched.trans hsame
  -- The locale files are no sources, so that the sources read as they did at first.
  have hreads : ∀ file ∈ project.searched files,
      again.files.readText (project.scope.resolve file)
        = files.readText (project.scope.resolve file) := by
    intro file hmem
    obtain ⟨unit, rfl, hread⟩ := hcleared.sources.reads file hmem
    obtain ⟨reconciliation, hreconciled⟩ := hcleared.reconciled
    rw [huntouched.sources _ (hsame ▸ hmem), hcleared.again.requested.files]
    rw [← hcleared.files] at hmem hread ⊢
    exact (hreconciled.reads hmem hread).trans hread.symm
  have hfinds : ∀ ns phrase,
      project.Finds again.files ns phrase ↔ project.Finds before.files ns phrase := by
    intro ns phrase
    unfold Finds
    rw [hsearched, hcleared.files]
    exact SourceScope.finds_congr hreads _ ns phrase
  refine ⟨again, hagain, fun translator console => ?_⟩
  refine syncsIdly_of_rests hpending (fun file hmem => ?_) ?_ hsource htarget
    (hanswered.rests hindex hfinds)
  · rw [hsearched] at hmem
    obtain ⟨unit, rewriting, rfl, hread, hrewrite, hnothing⟩ :=
      hcleared.exists_rewrite_last hanswered.toMerges hmem
    refine ⟨unit, rewriting, rfl, (hreads _ hmem).trans hread, ?_, hnothing⟩
    rw [hindex]
    exact hrewrite
  · have searchable := hanswered.searchable
    rw [hcleared.files] at searchable
    unfold Searchable
    rw [hsearched]
    exact (SourceScope.searchable_congr hreads _).2 searchable

/-- The small project is brought in line once. -/
theorem syncsIdly_small_of_sync :
    (runOn (Sync.action small smallTranslator) (smallStart [])
        ⟨Console.start false false, Feed.empty⟩).1.toOption = some .success
      ∧ ∃ again, small.start smallSynced.1.files = .ok again
        ∧ ∀ translator console, small.SyncsIdly translator again ⟨console, Feed.empty⟩ := by
  have hsuccess : (runOn (Sync.action small smallTranslator) (smallStart [])
      ⟨Console.start false false, Feed.empty⟩).1.toOption = some .success := by decide +kernel
  have hvalues : ∀ phrase translation, (smallTranslator phrase).result = .ok translation →
      small.settings.wording.value translation ≠ small.settings.untranslated := by
    rintro phrase translation ⟨⟩
    decide +kernel
  have hsame : small.searched smallSynced.1.files = small.searched (smallStart []).files := by
    decide +kernel
  exact ⟨hsuccess, syncsIdly_of_sync start_smallStart apart_smallStart hvalues
    (HostAction.runOn_eq_ok hsuccess) hsame ⟨rfl, fun _ _ => rfl, rfl, rfl⟩⟩

/-! ## Sources that appear -/

/-- The small project with its sources included through the directory of the locale files, which is
not there at first. -/
def roundabout : Project := { small with
  settings := { small.settings with includes := ["locales/../src"] } }

/-- **A second sync may have something to do**: the first one makes the directory that the sources
are included through. -/
theorem not_syncsIdly_of_sync :
    ¬∀ (project : Project) (translator : Translator) (files later : FileTree)
      (start after : Session) (console : Console) (desk : Desk),
      project.start files = .ok start →
      project.locales.Apart files.workingDirectory →
      (∀ phrase translation, (translator phrase).result = .ok translation →
        project.settings.wording.value translation ≠ project.settings.untranslated) →
      runOn (Sync.action project translator) start ⟨console, Feed.empty⟩
        = (.ok .success, after, desk) →
      project.Untouched after.files later →
      ∃ again, project.start later = .ok again
        ∧ ∀ translator console, project.SyncsIdly translator again ⟨console, Feed.empty⟩ := by
  intro hall
  have hstart : roundabout.start (smallStart []).files = .ok (smallStart []) := by decide +kernel
  have apart : roundabout.locales.Apart (smallStart []).files.workingDirectory := by
    decide +kernel
  have hvalues : ∀ phrase translation, (smallTranslator phrase).result = .ok translation →
      roundabout.settings.wording.value translation ≠ roundabout.settings.untranslated := by
    rintro phrase translation ⟨⟩
    decide +kernel
  have hsuccess : (runOn (Sync.action roundabout smallTranslator) (smallStart [])
      ⟨Console.start false false, Feed.empty⟩).1.toOption = some .success := by decide +kernel
  -- The second sync finds the source, whose phrase no service translates this time.
  have hfailure : ((roundabout.start (runOn (Sync.action roundabout smallTranslator)
        (smallStart []) ⟨Console.start false false, Feed.empty⟩).2.1.files).toOption.map
      fun again => (runOn (Sync.action roundabout fun _ => ⟨0, .error .unreachable⟩) again
        ⟨Console.start false false, Feed.empty⟩).1.toOption) = some (some .failure) := by
    decide +kernel
  have hsync := HostAction.runOn_eq_ok hsuccess
  obtain ⟨⟨after, desk⟩, hran⟩ : ∃ ran, ran = (runOn (Sync.action roundabout smallTranslator)
      (smallStart []) ⟨Console.start false false, Feed.empty⟩).2 := ⟨_, rfl⟩
  rw [← hran] at hsync hfailure
  obtain ⟨again, hagain, hidle⟩ := hall roundabout smallTranslator _ after.files _ after _ desk
    hstart apart hvalues hsync ⟨rfl, fun _ _ => rfl, rfl, rfl⟩
  obtain ⟨last, deskLast, hrun, -⟩ :=
    (hidle (fun _ => ⟨0, .error .unreachable⟩) (Console.start false false)).success
  rw [hagain] at hfailure
  dsimp only [Except.toOption, Option.map_some] at hfailure
  rw [hrun] at hfailure
  cases hfailure

end Phrasebook.Project
