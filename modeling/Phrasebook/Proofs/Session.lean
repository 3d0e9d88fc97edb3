import Phrasebook.Project
import Phrasebook.Proofs.Pending
import Phrasebook.Proofs.Reconciliation

/-!
# Steps of a session

What a successful step of work says of the session before and after it. A reconciliation is one on
the files, after which the index is that of the source file if a locale file was written. A flush
is a reconciliation with the outcomes of the phrases that were pending, or has no outcomes and
leaves files and index alone.

Results:
* `Project.isCurrent_iff`: the index is that of the catalog in the source file.
* `Project.reconciled_of_reconcile`: what a reconciliation changes.
* `Project.flushed_of_flush`: what a flush changes.
-/

namespace Phrasebook

namespace SessionAction

variable {α β : Type} {before after : Session}

theorem exists_of_runOn_bind {action : SessionAction α} {next : α → SessionAction β} {result : β}
    (h : runOn (action >>= next) before = (.ok result, after)) :
    ∃ value middle, runOn action before = (.ok value, middle)
      ∧ runOn (next value) middle = (.ok result, after) := exists_of_run_bind h

theorem runOn_bind_of_runOn {action : SessionAction α} {next : α → SessionAction β}
    {middle : Session} {value : α} (h : runOn action before = (.ok value, middle)) :
    runOn (action >>= next) before = runOn (next value) middle := run_bind_of_run h

theorem runOn_bind_of_runOn_error {action : SessionAction α} {next : α → SessionAction β}
    {problem : Problem} (h : runOn action before = (.error problem, after)) :
    runOn (action >>= next) before = (.error problem, after) := run_bind_of_run_error h

theorem runOn_bind_eq_error {action : SessionAction α} {next : α → SessionAction β}
    {problem : Problem} (h : runOn (action >>= next) before = (.error problem, after)) :
    runOn action before = (.error problem, after)
      ∨ ∃ value middle, runOn action before = (.ok value, middle)
        ∧ runOn (next value) middle = (.error problem, after) := run_bind_eq_error h

theorem runOn_map (change : α → β) (action : SessionAction α) (session : Session) :
    runOn (change <$> action) session
      = ((runOn action session).1.map change, (runOn action session).2) :=
  run_map change action session

theorem runOn_session (before : Session) : runOn session before = (.ok before, before) := rfl

theorem runOn_wait (time : Nat) (before : Session) :
    runOn (wait time) before = (.ok (), { before with now := before.now + time }) := rfl

theorem runOn_modify (change : Session → Session) (session : Session) :
    runOn (modify change) session = (.ok (), change session) := rfl

/-- An action on the files gives what it gives there, and changes nothing else. -/
theorem runOn_onFiles (action : FileAction α) (before : Session) :
    runOn (onFiles action) before
      = ((action.runOn before.files).1,
        { before with files := (action.runOn before.files).2 }) := by
  unfold onFiles
  rw [runOn_bind_of_runOn (show runOn get before = (.ok before, before) from rfl)]
  rcases action.runOn before.files with ⟨found, files⟩
  cases found <;> rfl

/-- A successful action on the files changes nothing else. -/
theorem runOn_onFiles_eq_ok {action : FileAction α} {value : α}
    (h : runOn (onFiles action) before = (.ok value, after)) :
    action.runOn before.files = (.ok value, after.files)
      ∧ after = { before with files := after.files } := by
  rw [runOn_onFiles, Prod.mk.injEq] at h
  obtain ⟨hvalue, rfl⟩ := h
  exact ⟨Prod.ext hvalue rfl, rfl⟩

/-- A step that gives a value, and the session after it. -/
theorem runOn_eq_ok {action : SessionAction α} {session : Session} {value : α}
    (h : (runOn action session).1.toOption = some value) :
    runOn action session = (.ok value, (runOn action session).2) :=
  Prod.ext (toOption_eq_some_iff.1 h) rfl

/-- A step that gives no problem, and the session after it. -/
theorem exists_runOn_eq_ok (action : SessionAction α) (session : Session)
    (h : ((runOn action session).1.toOption).isSome = true) :
    ∃ value, runOn action session = (.ok value, (runOn action session).2) := by
  obtain ⟨value, hvalue⟩ := Option.isSome_iff_exists.1 h
  exact ⟨value, runOn_eq_ok hvalue⟩

end SessionAction

/-- Two sessions have the same files, index and pending phrases. Time may have passed, and things
may have been told. -/
structure Session.Agrees (first second : Session) : Prop where
  files : first.files = second.files
  index : first.index = second.index
  pending : first.pending = second.pending

namespace Project

open SessionAction

variable {project : Project} {before after : Session} {outcomes : List Outcome}

/-! ## The index and the source file -/

/-- The index is that of the source file. -/
def IsCurrent (project : Project) (session : Session) : Prop :=
  (project.loadIndex.runOn session.files).1 = .ok session.index

instance (project : Project) (session : Session) : Decidable (project.IsCurrent session) :=
  decidable_of_iff _ toOption_eq_some_iff

/-- **The index is that of the catalog in the source file.** -/
theorem isCurrent_iff {session : Session} :
    project.IsCurrent session
      ↔ ∃ source, project.locales.Holds project.locales.sourceLanguage session.files source
        ∧ session.index = project.indexOf source := by
  unfold IsCurrent loadIndex Locales.Holds Locales.loadSource
  rw [FileAction.runOn_bind]
  rcases (project.locales.load project.locales.sourceLanguage).runOn session.files with
    ⟨found, files⟩
  cases found with
  | error problem => simp
  | ok source =>
    show Except.ok (project.indexOf source) = Except.ok session.index ↔ _
    simp [eq_comm]

/-- Loading the index leaves the files as they are. -/
theorem runOn_loadIndex (project : Project) (files : FileTree) :
    (project.loadIndex.runOn files).2 = files := by
  unfold loadIndex Locales.loadSource
  rw [FileAction.runOn_bind, Locales.runOn_load]
  cases Locales.catalogOf (project.locales.pathOf project.locales.sourceLanguage)
    (files.readText (project.locales.pathOf project.locales.sourceLanguage)) <;> rfl

/-- The index that is loaded is that of the catalog in the source file. -/
theorem runOn_loadIndex_of_holds {files : FileTree} {source : Catalog}
    (h : project.locales.Holds project.locales.sourceLanguage files source) :
    project.loadIndex.runOn files = (.ok (project.indexOf source), files) := by
  unfold loadIndex Locales.loadSource
  rw [FileAction.runOn_bind_of_runOn (Locales.runOn_load_eq_ok_iff.2 ⟨h, rfl⟩)]
  rfl

/-- The index of a catalog, when keys are translations. -/
theorem indexOf_target (hlanguage : project.settings.keyLanguage = .target) (catalog : Catalog) :
    project.indexOf catalog
      = PhraseIndex.ofCatalog catalog .target project.settings.untranslated := by
  unfold indexOf
  rw [hlanguage]

/-- A successful refresh makes the index current and changes nothing else. -/
theorem isCurrent_of_refresh (h : project.refresh.runOn before = (.ok (), after)) :
    project.IsCurrent after ∧ after = { before with index := after.index } := by
  unfold refresh at h
  obtain ⟨index, middle, hload, hset⟩ := exists_of_runOn_bind h
  obtain ⟨hrun, hmiddle⟩ := runOn_onFiles_eq_ok hload
  have hfiles : middle.files = before.files := by
    rw [← project.runOn_loadIndex before.files, hrun]
  rw [runOn_modify] at hset
  cases hset
  rw [hfiles] at hrun hmiddle
  subst hmiddle
  exact ⟨congrArg Prod.fst hrun, rfl⟩

/-- Work starts with the index of the source file and with nothing pending. -/
theorem eq_of_start {files : FileTree} {start : Session} (h : project.start files = .ok start) :
    start.files = files ∧ start.pending = Pending.empty ∧ project.IsCurrent start := by
  unfold Project.start at h
  unfold IsCurrent
  cases hindex : (project.loadIndex.runOn files).1 with
  | error problem =>
    rw [hindex] at h
    cases h
  | ok index =>
    rw [hindex] at h
    cases h
    exact ⟨rfl, rfl, hindex⟩

/-- Work starts on files whose source file holds a catalog. -/
theorem exists_start {files : FileTree} {source : Catalog}
    (h : project.locales.Holds project.locales.sourceLanguage files source) :
    ∃ start, project.start files = .ok start ∧ start.index = project.indexOf source := by
  unfold Project.start
  rw [runOn_loadIndex_of_holds h]
  exact ⟨_, rfl, rfl⟩

/-! ## Surveys and reconciliations -/

/-- The files that a survey goes through. -/
def searched (project : Project) (files : FileTree) : List String :=
  (project.scope.files files).keys

/-- What a survey finds in a session. -/
def surveyOf (project : Project) (outcomes : List Outcome) (session : Session) : Survey :=
  Survey.ofFiles project.scope project.rules (Survey.keyOf? outcomes session.index)
    session.files (project.searched session.files)

/-- Some file that a survey goes through has a marker call for a phrase of a known namespace. -/
def Finds (project : Project) (files : FileTree) (ns phrase : String) : Prop :=
  Survey.Finds project.scope project.rules files (project.searched files) ns phrase

/-- Every file that a survey goes through can be searched. -/
def Searchable (project : Project) (files : FileTree) : Prop :=
  Survey.Searchable project.scope project.rules files (project.searched files)

instance (project : Project) (files : FileTree) : Decidable (project.Searchable files) :=
  inferInstanceAs (Decidable (Survey.Searchable _ _ _ _))

/-- The rule of the merge in a reconciliation. -/
def ruleIn (project : Project) (outcomes : List Outcome) (session : Session) : Merge :=
  Reconciliation.ruleAfter project.settings.merge (project.surveyOf outcomes session)

/-- The merged catalogs of a reconciliation. -/
def mergedOf (project : Project) (outcomes : List Outcome) (session : Session)
    (source target : Catalog) : Merged :=
  (project.ruleIn outcomes session).afterSurvey project.scope project.rules session.files
    (project.searched session.files) outcomes session.index source target

/-- A reconciliation removes keys only if it is to and every file can be searched. -/
theorem prune_ruleIn (project : Project) (outcomes : List Outcome) (session : Session) :
    (project.ruleIn outcomes session).prune = true
      ↔ project.settings.prune = true ∧ project.Searchable session.files := by
  unfold ruleIn Reconciliation.ruleAfter Searchable
  rw [← Survey.isComplete_ofFiles _ _ _ (Survey.keyOf? outcomes session.index), Bool.and_eq_true]
  exact Iff.rfl

instance (project : Project) (files : FileTree) (ns phrase : String) :
    Decidable (project.Finds files ns phrase) :=
  inferInstanceAs (Decidable (Survey.Finds _ _ _ _ _ _))

/-- A survey notes what was odd about paths, and changes nothing else. -/
theorem runOn_survey (project : Project) (outcomes : List Outcome) (session : Session) :
    (project.survey outcomes).runOn session
      = (.ok (project.surveyOf outcomes session),
        { session with notices := session.notices ++ project.scope.warnings session.files }) := rfl

/-- What a successful reconciliation changes. -/
structure Reconciled (project : Project) (outcomes : List Outcome) (before after : Session)
    (reconciliation : Reconciliation) : Prop where
  files : (Reconciliation.run project.locales project.settings.merge outcomes
    (project.surveyOf outcomes before)).runOn before.files = (.ok reconciliation, after.files)
  pending : after.pending = before.pending
  refreshed : reconciliation.isWritten = true → project.IsCurrent after
  unwritten : reconciliation.isWritten = false → after.index = before.index

/-- **A reconciliation** writes the merged catalogs, and refreshes the index if it wrote any. -/
theorem reconciled_of_reconcile {reconciliation : Reconciliation}
    (h : (project.reconcile outcomes).runOn before = (.ok reconciliation, after)) :
    project.Reconciled outcomes before after reconciliation := by
  unfold reconcile at h
  rw [runOn_bind_of_runOn (project.runOn_survey outcomes before)] at h
  obtain ⟨found, middle, hmerge, hrest⟩ := exists_of_runOn_bind h
  obtain ⟨hrun, hmiddle⟩ := runOn_onFiles_eq_ok hmerge
  cases hwritten : found.isWritten with
  | false =>
    rw [hwritten, if_neg Bool.false_ne_true] at hrest
    cases hrest
    refine ⟨hrun, ?_, fun hcontra => ?_, fun _ => ?_⟩
    · rw [hmiddle]
    · rw [hwritten] at hcontra
      cases hcontra
    · rw [hmiddle]
  | true =>
    rw [hwritten, if_pos rfl] at hrest
    obtain ⟨_, refreshed, hrefresh, hversion⟩ := exists_of_runOn_bind hrest
    obtain ⟨hcurrent, hrefreshed⟩ := isCurrent_of_refresh hrefresh
    rw [runOn_bind_of_runOn (runOn_modify _ refreshed)] at hversion
    cases hversion
    have hfiles : refreshed.files = middle.files := by rw [hrefreshed]
    have hpending : refreshed.pending = before.pending := by rw [hrefreshed, hmiddle]
    refine ⟨?_, hpending, fun _ => hcurrent, fun hcontra => ?_⟩
    · show _ = (_, refreshed.files)
      rw [hfiles]
      exact hrun
    · rw [hwritten] at hcontra
      cases hcontra

theorem Reconciled.eq_of_not_isWritten {reconciliation : Reconciliation}
    (h : project.Reconciled outcomes before after reconciliation)
    (hwritten : reconciliation.isWritten = false) :
    after.files = before.files ∧ after.index = before.index :=
  ⟨Reconciliation.eq_of_not_isWritten h.files hwritten, h.unwritten hwritten⟩

/-- **The index after a reconciliation** is that of the source file if a locale file was written,
and otherwise if it was so before. -/
theorem Reconciled.isCurrent_iff {reconciliation : Reconciliation}
    (h : project.Reconciled outcomes before after reconciliation) :
    project.IsCurrent after ↔ reconciliation.isWritten = true ∨ project.IsCurrent before := by
  cases hwritten : reconciliation.isWritten with
  | true => simp [h.refreshed hwritten]
  | false =>
    obtain ⟨hfiles, hindex⟩ := h.eq_of_not_isWritten hwritten
    unfold IsCurrent
    simp [hfiles, hindex]

/-- **A reconciliation on different files and with a current index**: the files hold the merged
catalogs, and the index is current again. -/
structure Merges (project : Project) (outcomes : List Outcome) (before after : Session)
    (source target : Catalog) : Prop where
  sourceBefore : project.locales.Holds project.locales.sourceLanguage before.files source
  targetBefore : project.locales.Holds project.locales.targetLanguage before.files target
  indexBefore : before.index = project.indexOf source
  sourceAfter : project.locales.Holds project.locales.sourceLanguage after.files
    (project.mergedOf outcomes before source target).source
  targetAfter : project.locales.Holds project.locales.targetLanguage after.files
    (project.mergedOf outcomes before source target).target
  indexAfter : after.index
    = project.indexOf (project.mergedOf outcomes before source target).source

theorem Reconciled.merges {reconciliation : Reconciliation}
    (h : project.Reconciled outcomes before after reconciliation)
    (apart : project.locales.Apart before.files.workingDirectory)
    (current : project.IsCurrent before) :
    ∃ source target, project.Merges outcomes before after source target := by
  obtain ⟨source, target, -, hsource, htarget, -⟩ := Reconciliation.exists_of_run h.files
  have hsourceAfter := Reconciliation.holds_source_of_run apart h.files hsource htarget
  have htargetAfter := Reconciliation.holds_target_of_run h.files hsource htarget
  obtain ⟨old, hold, hindexBefore⟩ := Project.isCurrent_iff.1 current
  obtain ⟨new, hnew, hindexAfter⟩ := Project.isCurrent_iff.1 (h.isCurrent_iff.2 (.inr current))
  obtain rfl := hold.unique hsource
  obtain rfl := hnew.unique hsourceAfter
  exact ⟨old, target, hold, htarget, hindexBefore, hnew, htargetAfter, hindexAfter⟩

/-! ## Flushes -/

/-- The outcomes of a flush, if it comes to any. -/
def outcomesOf (project : Project) (translator : Translator) (session : Session) : List Outcome :=
  (Outcome.assign session.index (project.candidatesOf translator session.pending)).1

/-- Only pending pairs become candidates, each at most once. -/
theorem candidatesOf_sublist (project : Project) (translator : Translator) (pending : Pending) :
    ((project.candidatesOf translator pending).map fun candidate =>
      (candidate.phrase, candidate.ns)).Sublist pending.pairs := by
  unfold candidatesOf
  induction pending.pairs with
  | nil => exact .slnil
  | cons pair rest ih =>
    rw [List.filterMap_cons]
    rcases pair with ⟨phrase, ns⟩
    cases hresult : (translator phrase).result with
    | error fault =>
      simp only [hresult]
      exact ih.cons (phrase, ns)
    | ok translation =>
      simp only [hresult, List.map_cons]
      exact ih.cons_cons (phrase, ns)

/-- A candidate is that of a translation of its phrase. -/
theorem exists_of_mem_candidatesOf {translator : Translator} {pending : Pending}
    {candidate : Candidate} (h : candidate ∈ project.candidatesOf translator pending) :
    ∃ translation, (translator candidate.phrase).result = .ok translation
      ∧ candidate = project.settings.wording.candidate candidate.phrase candidate.ns translation := by
  obtain ⟨⟨phrase, ns⟩, -, hcandidate⟩ := List.mem_filterMap.1 h
  dsimp only at hcandidate
  split at hcandidate
  · next translation hresult =>
    cases hcandidate
    exact ⟨translation, hresult, rfl⟩
  · cases hcandidate

/-- **Only pending pairs have outcomes**, each at most one. -/
theorem outcomesOf_sublist (project : Project) (translator : Translator) (session : Session) :
    ((project.outcomesOf translator session).map fun outcome =>
      (outcome.phrase, outcome.ns)).Sublist session.pending.pairs := by
  have hmap := congrArg
    (List.map fun (triple : String × String × String) => (triple.1, triple.2.1))
    (Outcome.map_candidate_assign session.index
      (project.candidatesOf translator session.pending))
  rw [List.map_map, List.map_map] at hmap
  have hsublist := project.candidatesOf_sublist translator session.pending
  exact hmap ▸ hsublist

theorem mem_pairs_of_mem_outcomesOf {translator : Translator} {outcome : Outcome}
    (h : outcome ∈ project.outcomesOf translator before) :
    (outcome.phrase, outcome.ns) ∈ before.pending.pairs :=
  (project.outcomesOf_sublist translator before).subset (List.mem_map_of_mem h)

/-- The value of an outcome is that of a translation. -/
theorem exists_value_of_mem_outcomesOf {translator : Translator} {outcome : Outcome}
    (h : outcome ∈ project.outcomesOf translator before) :
    ∃ phrase translation, (translator phrase).result = .ok translation
      ∧ outcome.value = project.settings.wording.value translation := by
  have htriple : (outcome.phrase, outcome.ns, outcome.value)
      ∈ (project.candidatesOf translator before.pending).map fun candidate =>
        (candidate.phrase, candidate.ns, candidate.value) := by
    rw [← Outcome.map_candidate_assign before.index]
    exact List.mem_map.2 ⟨outcome, h, rfl⟩
  obtain ⟨candidate, hmem, heq⟩ := List.mem_map.1 htriple
  obtain ⟨translation, hresult, hcandidate⟩ := exists_of_mem_candidatesOf hmem
  refine ⟨candidate.phrase, translation, hresult, ?_⟩
  rw [← (Prod.mk.inj (Prod.mk.inj heq).2).2, hcandidate]
  rfl

/-- Two outcomes of one phrase and namespace are one. -/
theorem eq_of_mem_outcomesOf {translator : Translator} {first second : Outcome}
    (hfirst : first ∈ project.outcomesOf translator before)
    (hsecond : second ∈ project.outcomesOf translator before)
    (hns : first.ns = second.ns) (hphrase : first.phrase = second.phrase) : first = second := by
  have hnodup := before.pending.nodup_pairs.sublist (project.outcomesOf_sublist translator before)
  refine List.inj_on_of_nodup_map hnodup hfirst hsecond ?_
  rw [hns, hphrase]

/-- The session when a flush starts to reconcile, as far as a reconciliation goes. -/
def unpended (session : Session) : Session := { session with pending := Pending.empty }

/-- **A flush** reconciles the outcomes of the pending phrases, or has none. -/
theorem flushed_of_flush {translator : Translator} {flush : Flush}
    (h : (project.flush translator).runOn before = (.ok flush, after)) :
    after.pending = Pending.empty
      ∧ ((flush.outcomes = [] ∧ after.files = before.files ∧ after.index = before.index)
        ∨ (flush.outcomes = project.outcomesOf translator before
          ∧ ∃ reconciliation,
            project.Reconciled flush.outcomes (unpended before) after reconciliation)) := by
  unfold Project.flush at h
  rw [runOn_bind_of_runOn (runOn_session before)] at h
  dsimp only at h
  rw [runOn_bind_of_runOn (runOn_modify _ before)] at h
  unfold flushPending at h
  dsimp only at h
  split at h
  · cases h
    exact ⟨rfl, .inl ⟨rfl, rfl, rfl⟩⟩
  · split at h
    · rw [runOn_bind_of_runOn (runOn_wait _ _)] at h
      cases h
      exact ⟨rfl, .inl ⟨rfl, rfl, rfl⟩⟩
    · rw [runOn_bind_of_runOn (runOn_wait _ _), runOn_bind_of_runOn (runOn_session _)] at h
      dsimp only at h
      cases houtcomes : (Outcome.assign before.index
          (project.candidatesOf translator before.pending)).1 with
      | nil =>
        rw [houtcomes, if_pos List.isEmpty_nil] at h
        cases h
        exact ⟨rfl, .inl ⟨rfl, rfl, rfl⟩⟩
      | cons outcome rest =>
        rw [houtcomes, if_neg (by simp)] at h
        obtain ⟨found, middle, hreconcile, hreport⟩ := exists_of_runOn_bind h
        obtain ⟨reconciliation, last, hrun, hsome⟩ := exists_of_runOn_bind hreconcile
        cases hsome
        cases hreport
        have hreconciled := reconciled_of_reconcile hrun
        refine ⟨hreconciled.pending, .inr ⟨?_, reconciliation, ?_⟩⟩
        · exact houtcomes.symm
        · exact ⟨hreconciled.files, hreconciled.pending, hreconciled.refreshed,
            hreconciled.unwritten⟩

/-! ## Rewriting -/

/-- What is unresolved has no key. -/
theorem lookup?_of_mem_unresolved {index : PhraseIndex} {unit : SourceUnit}
    {rewriting : Rewriting} (h : project.rules.rewrite index unit = .ok rewriting)
    {request : Unresolved} (hmem : request ∈ rewriting.unresolved) :
    index.lookup? request.ns request.phrase = none := by
  unfold MarkerRules.rewrite at h
  split at h
  · cases h
    cases hmem
  · cases hcalls : project.rules.findKnown unit with
    | error problem => rw [hcalls] at h; cases h
    | ok calls =>
      rw [hcalls] at h
      cases h
      obtain ⟨call, -, hrequest⟩ := List.mem_filterMap.1 hmem
      unfold MarkerRules.unresolved? at hrequest
      split at hrequest
      · cases hrequest
      · next hnone =>
        cases hrequest
        simpa using hnone

/-- A successful rewriting in any mode is one of the unit. -/
theorem rewrite_of_rewriteIn {index : PhraseIndex} {mode : BuildMode} {unit : SourceUnit}
    {rewriting : Rewriting} (h : project.rules.rewriteIn mode index unit = .ok rewriting) :
    project.rules.rewrite index unit = .ok rewriting := by
  unfold MarkerRules.rewriteIn at h
  cases hrewrite : project.rules.rewrite index unit with
  | error problem => rw [hrewrite] at h; cases h
  | ok found =>
    rw [hrewrite] at h
    simp only [bind, Except.bind] at h
    split at h
    · cases h
    · exact h

/-- What a rewritten unit changes in a session: phrases without a key become pending. -/
structure Requested (before after : Session) : Prop where
  files : after.files = before.files
  index : after.index = before.index
  pending : ∀ {phrase ns}, (phrase, ns) ∈ after.pending.pairs →
    (phrase, ns) ∈ before.pending.pairs ∨ before.index.lookup? ns phrase = none

theorem requested_of_rewriting {mode : BuildMode} {unit : SourceUnit} {rewriting : Rewriting}
    (hrewrite : project.rules.rewrite before.index unit = .ok rewriting)
    (h : runOn (do
        if mode = .development then
          modify fun session =>
            { session with pending := session.pending.addUnresolved rewriting.unresolved }
        pure rewriting) before = (.ok rewriting, after)) : Requested before after := by
  split at h
  · cases h
    refine ⟨rfl, rfl, fun {phrase ns} hmem => ?_⟩
    rcases Pending.mem_pairs_addUnresolved.1 hmem with hold | ⟨request, hrequest, rfl, rfl⟩
    · exact .inl hold
    · exact .inr (lookup?_of_mem_unresolved hrewrite hrequest)
  · cases h
    exact ⟨rfl, rfl, .inl⟩

/-- **A rewritten unit** makes only phrases without a key pending. -/
theorem requested_of_rewrite {mode : BuildMode} {unit : SourceUnit} {rewriting : Rewriting}
    (h : (project.rewrite mode unit).runOn before = (.ok rewriting, after)) :
    Requested before after := by
  unfold rewrite at h
  rw [runOn_bind_of_runOn (runOn_session before)] at h
  cases hrewrite : project.rules.rewriteIn mode before.index unit with
  | error problem => rw [hrewrite] at h; cases h
  | ok found =>
    rw [hrewrite] at h
    have hfound : found = rewriting := by
      dsimp only at h
      split at h <;> cases h <;> rfl
    subst hfound
    exact requested_of_rewriting (rewrite_of_rewriteIn hrewrite) h

theorem requested_of_rewriteCollecting {mode : BuildMode} {unit : SourceUnit}
    {rewriting : Rewriting}
    (h : (project.rewriteCollecting mode unit).runOn before = (.ok rewriting, after)) :
    Requested before after := by
  unfold rewriteCollecting at h
  rw [runOn_bind_of_runOn (runOn_session before)] at h
  cases hrewrite : project.rules.rewrite before.index unit with
  | error problem => rw [hrewrite] at h; cases h
  | ok found =>
    rw [hrewrite] at h
    have hfound : found = rewriting := by
      dsimp only at h
      split at h <;> cases h <;> rfl
    subst hfound
    exact requested_of_rewriting hrewrite h

/-! ## A small project

One namespace, one file and one marker call: enough to run every step. -/

/-- A project with one namespace. -/
def small : Project :=
  ⟨{ localePath := some "locales", namespaces := ["default"], source := .text }, "/p"⟩

/-- A unit with one marker call. -/
def smallUnit : SourceUnit := ⟨"src/app.ts", "i18n.s('你好')"⟩

/-- The small project with nothing in its index, and with some entries beside the unit. -/
def smallStart (more : List (String × FileEntry)) : Session :=
  ⟨⟨Dictionary.ofList ([("/p", .directory), ("/p/src", .directory),
      ("/p/src/app.ts", .file (.text smallUnit.code) 0)] ++ more), [], 1, []⟩,
    PhraseIndex.empty, Pending.empty, 0, 0, Ticker.start 0 5000, []⟩

/-- Work on the small project starts with an empty index. -/
theorem start_smallStart : small.start (smallStart []).files = .ok (smallStart []) := by
  decide +kernel

/-- The small project has two locale files. -/
theorem apart_smallStart : small.locales.Apart (smallStart []).files.workingDirectory := by
  decide +kernel

/-- A catalog with one key. -/
def smallCatalog (key value : String) : Catalog := Catalog.empty.insert "default" key value

/-- The small project whose locale files were filled in by hand, after its index was loaded. -/
def smallFilled (key translation : String) : Session :=
  smallStart [("/p/locales", .directory),
    ("/p/locales/zh.json", .file (.text (smallCatalog key "你好").text) 0),
    ("/p/locales/en.json", .file (.text (smallCatalog key translation).text) 0)]

/-- The small project whose index was loaded from such files. -/
def smallKnown (key translation : String) : Session :=
  { smallFilled key translation with index := small.indexOf (smallCatalog key "你好") }

/-- One translation for all phrases. -/
def smallTranslator : Translator := fun _ => ⟨0, .ok "Hello"⟩

/-- The small project after its unit was rewritten. -/
def smallAsked : Session := ((small.rewrite .development smallUnit).runOn (smallStart [])).2

/-- The small project after its first flush. -/
def smallFlushed : Session := ((small.flush smallTranslator).runOn smallAsked).2

end Project

end Phrasebook
