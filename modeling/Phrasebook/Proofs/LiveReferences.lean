import Phrasebook.Command.Build
import Phrasebook.Command.Sync
import Phrasebook.Proofs.FlushedOutputs
import Phrasebook.Proofs.WrittenOutputs

/-!
# References are live

A development build and a sync feed all sources, flush once and feed the affected files again. The
outputs of the other files stand as they were rewritten before the flush. Still each reference in
any output is to a key that carries its phrase in the source file when the run is over: the outputs
are all up to date with the last index (`Improved`), and that is the index of the source file.

Results:
* `Project.fed_of_feedSources`: what the first feeding leaves.
* `Project.improved_of_develop`, `Project.improved_of_sync`: what the two commands come to, before a
  build writes its outputs.
* `Project.live_of_run`: the references in the outputs of a run are live.
-/

namespace Phrasebook

namespace Project

open HostAction Desk

variable {project : Project} {translator : Translator} {files : FileTree}
  {start before after : Session} {feed : Feed}

/-! ## The first feeding -/

/-- All sources are fed. -/
def feedSources (project : Project) : HostAction Desk Unit := do
  feedFiles project .development (← work project.sourceFiles)

/-- What the first feeding leaves: every output is up to date, nothing but phrases without a key is
pending, and only source files that can be read have outputs or ask for phrases. A source file
without an output failed. -/
structure FedSources (project : Project) (files : FileTree) (session : Session) (feed : Feed) :
    Prop where
  unchanged : session.files = files
  settled : project.Settled session
  upToDate : ∀ file, project.UpToDate session feed file
  outputs : ∀ file, (feed.outputs.get? file).isSome → file ∈ project.searched files
  asking : ∀ file ∈ session.pending.files.keys, file ∈ project.searched files
  found : ∀ {phrase ns}, (phrase, ns) ∈ session.pending.pairs → project.Finds files ns phrase
  covers : ∀ file ∈ project.searched files, feed.Covers file
  reads : ∀ file ∈ project.searched files,
    ∃ unit, unit.path = file ∧ project.scope.Reads files unit

/-- The runs that the first feeding is made of. -/
theorem exists_fedAll_of_feedSources {desk deskAfter : Desk}
    (h : runOn project.feedSources start desk = (.ok (), after, deskAfter)) :
    ∃ looked, looked.files = start.files ∧ looked.index = start.index
      ∧ looked.pending = start.pending
      ∧ project.FedAll (project.searched start.files) looked desk.feed after deskAfter.feed := by
  unfold feedSources at h
  obtain ⟨found, looked, deskLooked, hlook, hfeed⟩ := exists_of_runOn_bind h
  obtain ⟨worked, hsources, rfl, rfl⟩ := runOn_work_eq_ok hlook
  cases hsources
  have hfed := fedAll_of_feedFiles hfeed
  refine ⟨_, ?_, ?_, ?_, hfed⟩ <;> rfl

/-- **The first feeding.** -/
theorem fed_of_feedSources (hstart : project.start files = .ok start)
    (apart : project.locales.Apart files.workingDirectory) {console : Console} {desk : Desk}
    (h : runOn project.feedSources start ⟨console, Feed.empty⟩ = (.ok (), after, desk)) :
    project.FedSources files after desk.feed := by
  obtain ⟨rfl, hpending, current⟩ := eq_of_start hstart
  obtain ⟨looked, hfiles, hindex, hlooked, hfed⟩ := exists_fedAll_of_feedSources h
  have hrequested := hfed.requested
  have hnothing : looked.pending = Pending.empty := hlooked.trans hpending
  refine ⟨hrequested.files.trans hfiles, ?_, ?_, ?_, ?_, fun hmem => ?_,
    fun file hmem => hfed.covers (.inl hmem), ?_⟩
  · refine settled_of_requested ⟨?_, fun hmem => ?_, ?_⟩ hrequested
    · unfold IsCurrent
      rw [hfiles, hindex]
      exact current
    · rw [hnothing] at hmem
      exact absurd hmem Pending.not_mem_pairs_empty
    · rw [hfiles]
      exact apart
  · exact fun file => hfed.upToDate fun _ => upToDate_of_get?_eq_none rfl
  · exact fun file hmem => (hfed.outputs_subset hmem).resolve_left (by simp [Feed.empty])
  · intro file hmem
    refine (hfed.files_subset hmem).resolve_left fun hold => ?_
    rw [hnothing] at hold
    exact absurd hold List.not_mem_nil
  · have hfinds := (hfed.finds_of_mem_pairs hmem).resolve_left fun hold => by
      rw [hnothing] at hold
      exact Pending.not_mem_pairs_empty hold
    rw [hfiles] at hfinds
    exact hfinds
  · intro file hmem
    rw [← hfiles]
    exact hfed.exists_reads hmem

/-! ## The flush and the second feeding -/

/-- Both locale files hold the same keys. -/
def HoldsAlike (project : Project) (files : FileTree) : Prop :=
  ∃ source target, project.locales.Holds project.locales.sourceLanguage files source
    ∧ project.locales.Holds project.locales.targetLanguage files target
    ∧ ∀ ns key, (source.get? ns key).isSome = (target.get? ns key).isSome

theorem Merges.holdsAlike {outcomes : List Outcome} {source target : Catalog}
    (h : project.Merges outcomes before after source target) : project.HoldsAlike after.files :=
  ⟨_, _, h.sourceAfter, h.targetAfter, fun ns key => by
    unfold mergedOf
    rw [Merge.isSome_get?_afterSurvey]⟩

/-- The sources were fed and the pending phrases flushed, but affected files were not fed again. -/
structure Flushed (project : Project) (files : FileTree) (affected : TextSet) (session : Session)
    (feed : Feed) (reconciled : Prop) : Prop where
  current : project.IsCurrent session
  workingDirectory : session.files.workingDirectory = files.workingDirectory
  others : ∀ file, file ∉ affected.keys → project.UpToDate session feed file
  reads : ∀ {unit : SourceUnit}, unit.path ∈ project.searched files →
    project.scope.Reads files unit → project.scope.Reads session.files unit
  alike : reconciled → project.HoldsAlike session.files

/-- Of a session only files, index and pending phrases matter. -/
theorem Flushed.congr {affected : TextSet} {first second : Prop}
    (h : project.Flushed files affected before feed first) (hfiles : after.files = before.files)
    (hindex : after.index = before.index) (hpending : after.pending = before.pending)
    (himp : second → first) : project.Flushed files affected after feed second := by
  refine ⟨?_, ?_, fun file hfile => (h.others file hfile).congr ⟨hfiles, hindex, hpending⟩,
    fun {unit} hmem hread => ?_, fun hsecond => ?_⟩
  · unfold IsCurrent
    rw [hfiles, hindex]
    exact h.current
  · rw [hfiles]
    exact h.workingDirectory
  · rw [hfiles]
    exact h.reads hmem hread
  · rw [hfiles]
    exact h.alike (himp hsecond)

/-- The outputs of a run are up to date with the index of the source file. -/
structure Improved (project : Project) (files : FileTree) (session : Session) (feed : Feed)
    (reconciled : Prop) : Prop where
  current : project.IsCurrent session
  workingDirectory : session.files.workingDirectory = files.workingDirectory
  outputs : ∀ file, (feed.outputs.get? file).isSome → file ∈ project.searched files
  /-- Each output is what the current index makes of its file as it was at the start. -/
  upToDate : ∀ file rewriting, feed.outputs.get? file = some rewriting →
    ∃ unit, unit.path = file ∧ project.scope.Reads files unit
      ∧ project.rules.rewrite session.index unit = .ok rewriting
  alike : reconciled → project.HoldsAlike session.files

theorem Improved.imp {first second : Prop} {session : Session}
    (h : project.Improved files session feed first) (himp : second → first) :
    project.Improved files session feed second :=
  ⟨h.current, h.workingDirectory, h.outputs, h.upToDate, fun hsecond => h.alike (himp hsecond)⟩

/-- A source file that can be read after the flush is as it was. -/
theorem FedSources.reads_of_reads {fed session : Session} (hfed : project.FedSources files fed feed)
    (hstays : ∀ {unit : SourceUnit}, unit.path ∈ project.searched files →
      project.scope.Reads files unit → project.scope.Reads session.files unit)
    {unit : SourceUnit} (hmem : unit.path ∈ project.searched files)
    (hread : project.scope.Reads session.files unit) : project.scope.Reads files unit := by
  obtain ⟨first, hpath, hfirst⟩ := hfed.reads unit.path hmem
  have hstayed := hstays (by rw [hpath]; exact hmem) hfirst
  rw [← hstayed.unique hread hpath]
  exact hfirst

/-- A second feeding brings the affected files up to date too. -/
theorem improved_of_fedAll {fed : Session} {feedAfter : Feed} {affected : TextSet}
    {reconciled : Prop} (hfed : project.FedSources files fed feed)
    (haffected : ∀ file ∈ affected.keys, file ∈ project.searched files)
    (hflushed : project.Flushed files affected before feed reconciled)
    (h : project.FedAll affected.keys before feed after feedAfter) :
    project.Improved files after feedAfter reconciled := by
  have hrequested := h.requested
  have houtputs : ∀ file, (feedAfter.outputs.get? file).isSome → file ∈ project.searched files :=
    fun file hmem => (h.outputs_subset hmem).elim (hfed.outputs file) (haffected file)
  refine ⟨?_, ?_, houtputs, fun file rewriting hrewriting => ?_, fun hreconciled => ?_⟩
  · unfold IsCurrent
    rw [hrequested.files, hrequested.index]
    exact hflushed.current
  · rw [hrequested.files]
    exact hflushed.workingDirectory
  · obtain ⟨unit, hpath, hread, hrewrite, -⟩ :=
      h.upToDate (hflushed.others file) rewriting hrewriting
    -- The file could be read at the start, and what was written since are locale files.
    have hmem : unit.path ∈ project.searched files := by
      rw [hpath]
      exact houtputs file (by rw [hrewriting]; rfl)
    rw [hrequested.files] at hread
    exact ⟨unit, hpath, hfed.reads_of_reads hflushed.reads hmem hread, hrewrite⟩
  · rw [hrequested.files]
    exact hflushed.alike hreconciled

/-- Only source files are affected by a flush. -/
theorem affected_subset {fed : Session} {flush : Flush} (hfed : project.FedSources files fed feed)
    (h : (project.flush translator).runOn fed = (.ok flush, after)) :
    ∀ file ∈ flush.affected.keys, file ∈ project.searched files := by
  have haffected : flush.affected = fed.pending.files := (ended_of_flush h).affected_eq
  rw [haffected]
  exact hfed.asking

/-- A flush without a reconciliation leaves files and index alone. -/
theorem eq_of_reconciliation_eq_none {flush : Flush}
    (h : (project.flush translator).runOn before = (.ok flush, after))
    (hnone : flush.reconciliation = none) :
    after.files = before.files ∧ after.index = before.index := by
  cases ended_of_flush h with
  | idle => exact ⟨rfl, rfl⟩
  | late => exact ⟨rfl, rfl⟩
  | untranslated => exact ⟨rfl, rfl⟩
  | reconciled => cases hnone

/-- The reconciliation after a flush is that of the flush, or one without outcomes. -/
theorem reconciled_of_reconciliationAfter {flush : Flush} {reconciliation : Reconciliation}
    {desk deskAfter : Desk} (h : runOn (Sync.reconciliationAfter project flush) before desk
      = (.ok reconciliation, after, deskAfter)) :
    deskAfter.feed = desk.feed
      ∧ (flush.reconciliation = some reconciliation ∧ after = before
        ∨ flush.reconciliation = none ∧ ∃ reconciled,
          (project.reconcile []).runOn before = (.ok reconciliation, reconciled)
            ∧ after = { reconciled with notices := [] }) := by
  unfold Sync.reconciliationAfter at h
  cases hreconciliation : flush.reconciliation with
  | some made =>
    rw [hreconciliation] at h
    cases h
    exact ⟨rfl, .inl ⟨rfl, rfl⟩⟩
  | none =>
    rw [hreconciliation] at h
    obtain ⟨reconciled, hrun, rfl, rfl⟩ := runOn_work_eq_ok h
    exact ⟨rfl, .inr ⟨rfl, reconciled, hrun, rfl⟩⟩

section Target

variable (hlanguage : project.settings.keyLanguage = .target)
include hlanguage

/-- **The flush** leaves the outputs up to date that are not fed again. -/
theorem flushed_of_fedSources {fed : Session} {flush : Flush}
    (hfed : project.FedSources files fed feed)
    (h : (project.flush translator).runOn fed = (.ok flush, after)) :
    project.Flushed files flush.affected after feed (flush.reconciliation.isSome = true) := by
  have haffected : flush.affected = fed.pending.files := (ended_of_flush h).affected_eq
  obtain ⟨-, hcases⟩ := flushed_of_flush h
  refine ⟨(settled_of_syncs hlanguage (.flush h) hfed.settled).current, ?_, fun file hfile => ?_,
    fun {unit} hmem hread => ?_, fun hreconciled => ?_⟩
  · rw [← hfed.unchanged]
    rcases hcases with ⟨-, hfiles, -⟩ | ⟨-, _, hreconciled⟩
    · rw [hfiles]
    · exact Reconciliation.workingDirectory_of_run hreconciled.files
  · cases houtput : feed.outputs.get? file with
    | none => exact upToDate_of_get?_eq_none houtput
    | some rewriting =>
      refine upToDate_of_flush hlanguage (grounded_of_settled hfed.settled) h ?_
        (hfed.upToDate file) (haffected ▸ hfile)
      rw [hfed.unchanged]
      exact hfed.outputs file (by rw [houtput]; rfl)
  · rw [← hfed.unchanged] at hmem hread
    rcases hcases with ⟨-, hfiles, -⟩ | ⟨-, _, hreconciled⟩
    · rw [hfiles]
      exact hread
    · exact hreconciled.reads hmem hread
  · cases ended_of_flush h with
    | idle => cases hreconciled
    | late => cases hreconciled
    | untranslated => cases hreconciled
    | reconciled _ _ _ hrun =>
      obtain ⟨source, target, hmerges⟩ :=
        (reconciled_of_reconcile hrun).merges hfed.settled.apart hfed.settled.current
      exact hmerges.holdsAlike

/-- **A reconciliation after a flush that had none** leaves those outputs up to date as well. -/
theorem flushed_of_reconcile {fed flushed : Session} {flush : Flush}
    {reconciliation : Reconciliation} (hfed : project.FedSources files fed feed)
    (h : (project.flush translator).runOn fed = (.ok flush, flushed))
    (hnone : flush.reconciliation = none) (hfiles : before.files = flushed.files)
    (hindex : before.index = flushed.index) (hpending : before.pending = flushed.pending)
    (hrun : (project.reconcile []).runOn before = (.ok reconciliation, after)) :
    project.Flushed files flush.affected after feed True := by
  obtain ⟨hsameFiles, hsameIndex⟩ := eq_of_reconciliation_eq_none h hnone
  have hreconciled := reconciled_of_reconcile hrun
  have hflushed := flushed_of_fedSources hlanguage hfed h
  have hbefore : before.files = files := by rw [hfiles, hsameFiles, hfed.unchanged]
  have hsettled := settled_of_syncs hlanguage (.flush h) hfed.settled
  have hsettledBefore : project.Settled before := by
    refine ⟨?_, fun hmem => ?_, ?_⟩
    · unfold IsCurrent
      rw [hfiles, hindex]
      exact hsettled.current
    · rw [hpending] at hmem
      rw [hindex]
      exact hsettled.pending hmem
    · rw [hfiles]
      exact hsettled.apart
  have hempty : before.pending = Pending.empty := hpending.trans (flushed_of_flush h).1
  refine ⟨hreconciled.isCurrent_iff.2 (.inr hsettledBefore.current), ?_, fun file hfile => ?_,
    fun {unit} hmem hread => ?_, fun _ => ?_⟩
  · rw [Reconciliation.workingDirectory_of_run hreconciled.files, hbefore]
  · cases houtput : feed.outputs.get? file with
    | none => exact upToDate_of_get?_eq_none houtput
    | some rewriting =>
      have hup : project.UpToDate before feed file :=
        (hflushed.others file hfile).congr ⟨hfiles, hindex, hpending⟩
      refine upToDate_of_reconciled hlanguage (grounded_of_settled hsettledBefore) hreconciled
        (Outcome.unshared_nil _) (fun _ hmem => absurd hmem List.not_mem_nil) ?_ hup ?_
      · rw [hbefore]
        exact hfed.outputs file (by rw [houtput]; rfl)
      · -- Nothing is pending any more, so nothing is unresolved.
        intro rewriting hrewriting
        obtain ⟨_, _, _, _, hrequests⟩ := hup rewriting hrewriting
        refine List.eq_nil_iff_forall_not_mem.2 fun request hrequest => ?_
        have hpair := (hrequests request hrequest).1
        rw [hempty] at hpair
        exact Pending.not_mem_pairs_empty hpair
  · rw [← hbefore] at hmem hread
    exact hreconciled.reads hmem hread
  · obtain ⟨source, target, hmerges⟩ :=
      hreconciled.merges hsettledBefore.apart hsettledBefore.current
    exact hmerges.holdsAlike

/-- **The reconciliation of a sync** is that of the flush, or one without outcomes after it. -/
theorem flushed_of_reconciliationAfter {fed flushed : Session} {flush : Flush}
    {reconciliation : Reconciliation} {desk deskAfter : Desk}
    (hfed : project.FedSources files fed feed)
    (h : (project.flush translator).runOn fed = (.ok flush, flushed))
    (hsync : runOn (Sync.reconciliationAfter project flush) before desk
      = (.ok reconciliation, after, deskAfter))
    (hfiles : before.files = flushed.files) (hindex : before.index = flushed.index)
    (hpending : before.pending = flushed.pending) :
    project.Flushed files flush.affected after feed True := by
  rcases (reconciled_of_reconciliationAfter hsync).2 with
    ⟨hsome, rfl⟩ | ⟨hnone, reconciled, hrun, rfl⟩
  · have hflushed := flushed_of_fedSources hlanguage hfed h
    refine hflushed.congr hfiles hindex hpending fun _ => ?_
    rw [hsome]
    rfl
  · have hflushed := flushed_of_reconcile hlanguage hfed h hnone hfiles hindex hpending hrun
    exact hflushed.congr rfl rfl rfl id

end Target

/-- Without anything pending, a feeding is all there is to do. -/
theorem improved_of_nothing_pending {reconciled : Prop} (hfed : project.FedSources files before feed)
    (hnot : ¬reconciled) : project.Improved files before feed reconciled where
  current := hfed.settled.current
  workingDirectory := by rw [hfed.unchanged]
  outputs := hfed.outputs
  upToDate := by
    intro file rewriting hrewriting
    obtain ⟨unit, hpath, hread, hrewrite, -⟩ := hfed.upToDate file rewriting hrewriting
    rw [hfed.unchanged] at hread
    exact ⟨unit, hpath, hread, hrewrite⟩
  alike hreconciled := absurd hreconciled hnot

/-- A flush without pending pairs has no reconciliation. -/
theorem reconciliation_eq_none_of_pairs_eq_nil {flush : Flush}
    (h : (project.flush translator).runOn before = (.ok flush, after))
    (hpairs : before.pending.pairs = []) : flush.reconciliation = none := by
  cases ended_of_flush h with
  | idle => rfl
  | late => rfl
  | untranslated => rfl
  | reconciled _ _ hassigned =>
    have hmap := project.map_assigned translator before.pending (unpended before).index
    rw [hpairs, List.filter_nil, List.map_eq_nil_iff] at hmap
    exact absurd hmap hassigned

/-! ## The two commands -/

/-- The sources are fed, the flush has a reconciliation. -/
def Reconciles (project : Project) (translator : Translator) (start : Session) (desk : Desk) :
    Prop :=
  ∃ fed fedDesk flush flushed, runOn project.feedSources start desk = (.ok (), fed, fedDesk)
    ∧ (project.flush translator).runOn fed = (.ok flush, flushed)
    ∧ flush.reconciliation.isSome = true

/-- **The steps of a sync**: the sources are fed, the pending phrases are flushed, the flush is
followed by a reconciliation unless it had one, and the affected files are fed again. -/
theorem exists_of_sync {status : ExitStatus} {desk deskAfter : Desk}
    (h : runOn (Sync.action project translator) start desk = (.ok status, after, deskAfter)) :
    ∃ fed fedDesk flush flushed told reconciliation synced syncedDesk,
      runOn project.feedSources start desk = (.ok (), fed, fedDesk)
        ∧ (project.flush translator).runOn fed = (.ok flush, flushed)
        ∧ runOn (Sync.reconciliationAfter project flush) { flushed with notices := [] } told
          = (.ok reconciliation, synced, syncedDesk)
        ∧ project.FedAll flush.affected.keys synced fedDesk.feed after deskAfter.feed
        ∧ (status = .success → Sync.isClean deskAfter.feed flush = true) := by
  unfold Sync.action at h
  obtain ⟨found, looked, deskLooked, hlook, h⟩ := exists_of_runOn_bind h
  obtain ⟨_, fed, fedDesk, hfeedFiles, h⟩ := exists_of_runOn_bind h
  have hfeed : runOn project.feedSources start desk = (.ok (), fed, fedDesk) := by
    unfold feedSources
    rw [runOn_bind_of_runOn hlook]
    exact hfeedFiles
  rw [runOn_bind_of_runOn (runOn_kept _ _), runOn_bind_of_runOn (runOn_complain _ _ _)] at h
  obtain ⟨flush, _, deskFlushed, hwork, h⟩ := exists_of_runOn_bind h
  obtain ⟨flushed, hflush, rfl, rfl⟩ := runOn_work_eq_ok hwork
  rw [runOn_bind_of_runOn (runOn_tell _ _ _)] at h
  obtain ⟨reconciliation, synced, deskSynced, hsync, h⟩ := exists_of_runOn_bind h
  rw [runOn_bind_of_runOn (runOn_tell _ _ _)] at h
  obtain ⟨_, last, deskLast, hfeedAgain, h⟩ := exists_of_runOn_bind h
  have hfedAll := fedAll_of_feedFiles hfeedAgain
  have hfeedSynced := (reconciled_of_reconciliationAfter hsync).1
  dsimp only [Console.tell] at hfedAll hfeedSynced
  rw [hfeedSynced] at hfedAll
  rw [runOn_bind_of_runOn (runOn_tellUnresolved _ _ _)] at h
  refine ⟨fed, fedDesk, flush, flushed, _, reconciliation, synced, deskSynced, hfeed, hflush, hsync,
    ?_⟩
  split at h
  · rw [runOn_bind_of_runOn (runOn_kept _ _)] at h
    cases h
    exact ⟨hfedAll, fun hstatus => by_contra fun hclean => by simp [hclean] at hstatus⟩
  · cases h
    exact ⟨hfedAll, nofun⟩

section Commands

variable (hlanguage : project.settings.keyLanguage = .target)
  (hstart : project.start files = .ok start)
  (apart : project.locales.Apart files.workingDirectory) {console : Console} {desk : Desk}
include hlanguage hstart apart

/-- A flush and a second feeding in a development build. -/
theorem improved_of_translate {fed : Session} {fedDesk : Desk}
    (hfeed : runOn project.feedSources start ⟨console, Feed.empty⟩ = (.ok (), fed, fedDesk))
    {told : Desk} (htold : told.feed = fedDesk.feed)
    (h : runOn (Build.translate project translator) fed told = (.ok (), after, desk)) :
    project.Improved files after desk.feed
      (project.Reconciles translator start ⟨console, Feed.empty⟩) := by
  have hfed := fed_of_feedSources hstart apart hfeed
  unfold Build.translate at h
  rw [runOn_bind_of_runOn (runOn_attempt _ _ _), runOn_work] at h
  rcases hflush : (project.flush translator).runOn fed with ⟨found, flushed⟩
  rw [hflush] at h
  cases found with
  | error problem =>
    dsimp only at h
    rw [if_pos (isFatal_of_flush hflush)] at h
    cases h
  | ok flush =>
    rw [runOn_bind_of_runOn (runOn_tell _ _ _)] at h
    have hfedAll := fedAll_of_feedFiles h
    dsimp only [Console.tell] at hfedAll
    rw [htold] at hfedAll
    have hflushed : project.Flushed files flush.affected { flushed with notices := [] } _ _ :=
      (flushed_of_fedSources hlanguage hfed hflush).congr rfl rfl rfl id
    refine (improved_of_fedAll hfed (affected_subset hfed hflush) hflushed hfedAll).imp ?_
    rintro ⟨fed', fedDesk', flush', flushed', hfeed', hflush', hreconciled⟩
    rw [hfeed] at hfeed'
    cases hfeed'
    rw [hflush] at hflush'
    cases hflush'
    exact hreconciled

/-- What a development build comes to after the first feeding. -/
theorem improved_of_improve {fed : Session} {fedDesk : Desk}
    (hfeed : runOn project.feedSources start ⟨console, Feed.empty⟩ = (.ok (), fed, fedDesk))
    {status : ExitStatus}
    (h : runOn (Build.improve project translator) fed fedDesk = (.ok status, after, desk)) :
    project.Improved files after desk.feed
      (project.Reconciles translator start ⟨console, Feed.empty⟩) := by
  have hend : ∀ {session : Session} {kept : Desk},
      runOn (do
        if (← HostAction.kept).feed.unresolved.isEmpty then pure ExitStatus.success
        else if ← tellUnresolved .warning then pure .failure
        else pure .broken) session kept = (.ok status, after, desk) →
      after = session ∧ desk.feed = kept.feed := by
    intro session kept hrun
    rw [runOn_bind_of_runOn (runOn_kept _ _)] at hrun
    split at hrun
    · cases hrun
      exact ⟨rfl, rfl⟩
    · rw [runOn_bind_of_runOn (runOn_tellUnresolved _ _ _)] at hrun
      split at hrun <;> cases hrun <;> exact ⟨rfl, rfl⟩
  unfold Build.improve at h
  rw [runOn_bind_of_runOn (runOn_kept _ _), runOn_bind_of_runOn (runOn_complain _ _ _),
    runOn_bind_of_runOn (runOn_session _ _)] at h
  split at h
  · obtain ⟨_, session, kept, htranslate, hrest⟩ := exists_of_runOn_bind h
    have himproved := improved_of_translate hlanguage hstart apart hfeed
      (by rfl) htranslate
    obtain ⟨rfl, hfeedKept⟩ := hend hrest
    rw [hfeedKept]
    exact himproved
  · next hsize =>
    obtain ⟨rfl, hfeedKept⟩ := hend h
    have hfed := fed_of_feedSources hstart apart hfeed
    rw [hfeedKept]
    refine improved_of_nothing_pending hfed ?_
    rintro ⟨fed', fedDesk', flush, flushed, hfeed', hflush, hreconciled⟩
    rw [hfeed] at hfeed'
    cases hfeed'
    have hpairs : after.pending.pairs = [] :=
      List.length_eq_zero_iff.1 (Nat.eq_zero_of_not_pos hsize)
    rw [reconciliation_eq_none_of_pairs_eq_nil hflush hpairs] at hreconciled
    cases hreconciled

/-- **A development build**, before it writes its outputs. It writes them unless its report broke
off. -/
theorem improved_of_develop {outDirectory? : Option String} {status : ExitStatus}
    (h : runOn (Build.action project .development translator outDirectory?) start
      ⟨console, Feed.empty⟩ = (.ok status, after, desk)) :
    ∃ session kept, project.Improved files session kept.feed
        (project.Reconciles translator start ⟨console, Feed.empty⟩)
      ∧ (runOn (Build.finish outDirectory?) session kept = (.ok (), after, desk)
        ∨ after = session ∧ desk = kept) := by
  unfold Build.action at h
  obtain ⟨found, looked, deskLooked, hlook, h⟩ := exists_of_runOn_bind h
  obtain ⟨_, fed, fedDesk, hfeedFiles, h⟩ := exists_of_runOn_bind h
  have hfeed : runOn project.feedSources start ⟨console, Feed.empty⟩ = (.ok (), fed, fedDesk) := by
    unfold feedSources
    rw [runOn_bind_of_runOn hlook]
    exact hfeedFiles
  obtain ⟨reached, improved, deskImproved, himprove, h⟩ := exists_of_runOn_bind h
  have himproved := improved_of_improve hlanguage hstart apart hfeed himprove
  dsimp only at h
  split at h
  · obtain ⟨_, last, deskLast, hfinish, hlast⟩ := exists_of_runOn_bind h
    cases hlast
    exact ⟨improved, deskImproved, himproved, .inl hfinish⟩
  · cases h
    exact ⟨after, desk, himproved, .inr ⟨rfl, rfl⟩⟩

/-- **A sync.** -/
theorem improved_of_sync {status : ExitStatus}
    (h : runOn (Sync.action project translator) start ⟨console, Feed.empty⟩
      = (.ok status, after, desk)) :
    project.Improved files after desk.feed True := by
  obtain ⟨fed, fedDesk, flush, flushed, told, reconciliation, synced, syncedDesk, hfeed, hflush,
    hsync, hfedAll, -⟩ := exists_of_sync h
  have hfed := fed_of_feedSources hstart apart hfeed
  have hflushed := flushed_of_reconciliationAfter hlanguage hfed hflush hsync rfl rfl rfl
  exact improved_of_fedAll hfed (affected_subset hfed hflush) hflushed hfedAll

end Commands

/-! ## References -/

/-- A reference is live: the source file gives its key the phrase of its call, and the target file
has the key too, after a run that reconciled. -/
structure Live (project : Project) (files : FileTree) (reconciled : Prop)
    (reference : MarkerCall × String) : Prop where
  source : ∃ source, project.locales.Holds project.locales.sourceLanguage files source
    ∧ source.get? reference.1.namespaceName reference.2 = some reference.1.phrase
  target : reconciled → ∃ target,
    project.locales.Holds project.locales.targetLanguage files target
      ∧ (target.get? reference.1.namespaceName reference.2).isSome

/-- Every output is its file as it was, with live references in place of marker calls. -/
def OutputsLive (project : Project) (before after : FileTree) (feed : Feed) (reconciled : Prop) :
    Prop :=
  ∀ file rewriting, feed.outputs.get? file = some rewriting →
    ∃ unit references, unit.path = file ∧ project.scope.Reads before unit
      ∧ project.rules.Refers unit rewriting references
      ∧ ∀ reference ∈ references, project.Live after reconciled reference

/-- **The keys of a current index are live**, as long as the locale files that can be read stay. -/
theorem live_of_lookup? (hlanguage : project.settings.keyLanguage = .target) {session : Session}
    (current : project.IsCurrent session) {reconciled : Prop}
    (alike : reconciled → project.HoldsAlike session.files)
    (hstays : ∀ language text, session.files.readText (project.locales.pathOf language) = .ok text →
      files.readText (project.locales.pathOf language) = .ok text)
    {reference : MarkerCall × String}
    (hlookup : session.index.lookup? reference.1.namespaceName reference.1.phrase
      = some reference.2) : project.Live files reconciled reference := by
  have hholds : ∀ {language ns key value catalog},
      project.locales.Holds language session.files catalog → catalog.get? ns key = some value →
      project.locales.Holds language files catalog := by
    intro language ns key value catalog hold hvalue
    obtain ⟨text, hread⟩ := hold.exists_readText hvalue
    exact hold.of_readText_eq ((hstays language text hread).trans hread.symm)
  obtain ⟨source, hsource, hindex⟩ := isCurrent_iff.1 current
  have hphrase := PhraseIndex.phraseForKey?_of_lookup? hlookup
  rw [hindex, indexOf_target hlanguage, PhraseIndex.phraseForKey?_ofCatalog_target] at hphrase
  refine ⟨⟨source, hholds hsource hphrase.1, hphrase.1⟩, fun hreconciled => ?_⟩
  obtain ⟨source', target, hsource', htarget, hkeys⟩ := alike hreconciled
  obtain rfl := hsource.unique hsource'
  have hsome : (target.get? reference.1.namespaceName reference.2).isSome := by
    rw [← hkeys, hphrase.1]
    rfl
  obtain ⟨value, hvalue⟩ := Option.isSome_iff_exists.1 hsome
  exact ⟨target, hholds htarget hvalue, hsome⟩

/-- Outputs that are up to date are live. -/
theorem outputsLive_of_improved (hlanguage : project.settings.keyLanguage = .target)
    {session : Session} {reconciled : Prop}
    (h : project.Improved files session feed reconciled) {last : FileTree}
    (hstays : ∀ language text, session.files.readText (project.locales.pathOf language) = .ok text →
      last.readText (project.locales.pathOf language) = .ok text) :
    project.OutputsLive files last feed reconciled := by
  intro file rewriting hrewriting
  obtain ⟨unit, hpath, hread, hrewrite⟩ := h.upToDate file rewriting hrewriting
  obtain ⟨references, hrefers, hkeys⟩ := MarkerRules.exists_refers_of_rewrite hrewrite
  exact ⟨unit, references, hpath, hread, hrefers, fun reference hmem =>
    live_of_lookup? hlanguage h.current h.alike hstays (hkeys reference hmem)⟩

/-- **Writing the outputs leaves the locale files alone**, since outputs are named like sources. -/
theorem readText_of_finish {session : Session} {kept desk : Desk} {reconciled : Prop}
    {outDirectory? : Option String} (himproved : project.Improved files session kept.feed reconciled)
    (h : runOn (Build.finish outDirectory?) session kept = (.ok (), after, desk)) :
    desk.feed = kept.feed ∧ ∀ language text,
      session.files.readText (project.locales.pathOf language) = .ok text →
      after.files.readText (project.locales.pathOf language) = .ok text := by
  unfold Build.finish at h
  cases outDirectory? with
  | none =>
    cases h
    exact ⟨rfl, fun _ _ hread => hread⟩
  | some directory =>
    rw [runOn_bind_of_runOn (runOn_kept _ _)] at h
    obtain ⟨_, written, keptWritten, hwrite, htell⟩ := exists_of_runOn_bind h
    obtain ⟨-, rfl, -⟩ := eq_of_writeOutputs hwrite
    cases htell
    refine ⟨rfl, fun language text hread => readText_of_writeOutputs hwrite ?_ hread⟩
    rintro ⟨file, rewriting⟩ hmem
    have houtput := Dictionary.mem_toList.1 hmem
    obtain ⟨unit, rfl, hreads, -⟩ := himproved.upToDate file rewriting houtput
    have hsearched := himproved.outputs unit.path (by rw [houtput]; rfl)
    exact (SourceScope.keyOf_ne_fileKey hsearched hreads _ directory project.locales language).symm

/-- **References are live.** When a development build or a sync is over without a problem, every
output is its source file with references in place of marker calls, and each of them is to a key
that the source file gives the phrase of the call. If the run reconciled, as a sync always does,
the target file has the key too. -/
theorem live_of_run (hlanguage : project.settings.keyLanguage = .target)
    (hstart : project.start files = .ok start)
    (apart : project.locales.Apart files.workingDirectory) (console : Console)
    (status : ExitStatus) (desk : Desk) :
    (∀ outDirectory?, runOn (Build.action project .development translator outDirectory?) start
        ⟨console, Feed.empty⟩ = (.ok status, after, desk) →
      project.OutputsLive files after.files desk.feed
        (project.Reconciles translator start ⟨console, Feed.empty⟩))
    ∧ (runOn (Sync.action project translator) start ⟨console, Feed.empty⟩
        = (.ok status, after, desk) →
      project.OutputsLive files after.files desk.feed True) := by
  constructor
  · intro outDirectory? hbuild
    obtain ⟨session, kept, himproved, hfinish | ⟨rfl, rfl⟩⟩ :=
      improved_of_develop hlanguage hstart apart hbuild
    · obtain ⟨hfeed, hstays⟩ := readText_of_finish himproved hfinish
      rw [hfeed]
      exact outputsLive_of_improved hlanguage himproved hstays
    · exact outputsLive_of_improved hlanguage himproved fun _ _ hread => hread
  · intro hsync
    exact outputsLive_of_improved hlanguage (improved_of_sync hlanguage hstart apart hsync)
      fun _ _ hread => hread

/-- The small project after a build that writes its output, and after a sync. -/
def smallBuilt : Session × Desk :=
  (runOn (Build.action small .development smallTranslator (some "dist")) (smallStart [])
    ⟨Console.start false false, Feed.empty⟩).2

@[inherit_doc smallBuilt]
def smallSynced : Session × Desk :=
  (runOn (Sync.action small smallTranslator) (smallStart [])
    ⟨Console.start false false, Feed.empty⟩).2

/-- The small project is built and brought in line. -/
theorem live_small_of_run :
    smallBuilt.2.feed.outputs.get? "src/app.ts" = some ⟨"i18n.t('hello')", 1, []⟩
      ∧ small.OutputsLive (smallStart []).files smallBuilt.1.files smallBuilt.2.feed
        (small.Reconciles smallTranslator (smallStart []) ⟨Console.start false false, Feed.empty⟩)
      ∧ smallSynced.2.feed.outputs.get? "src/app.ts" = some ⟨"i18n.t('hello')", 1, []⟩
      ∧ small.OutputsLive (smallStart []).files smallSynced.1.files smallSynced.2.feed True := by
  obtain ⟨built, hbuild⟩ := HostAction.exists_runOn_eq_ok
    (Build.action small .development smallTranslator (some "dist")) (smallStart [])
    ⟨Console.start false false, Feed.empty⟩ (by decide +kernel)
  obtain ⟨synced, hsync⟩ := HostAction.exists_runOn_eq_ok (Sync.action small smallTranslator)
    (smallStart []) ⟨Console.start false false, Feed.empty⟩ (by decide +kernel)
  exact ⟨by decide +kernel,
    (live_of_run rfl start_smallStart apart_smallStart _ built _).1 _ hbuild, by decide +kernel,
    (live_of_run rfl start_smallStart apart_smallStart _ synced _).2 hsync⟩

end Project

end Phrasebook
