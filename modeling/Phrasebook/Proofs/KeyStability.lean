import Mathlib.Logic.Relation
import Phrasebook.Proofs.Session

/-!
# Keys stay

A reference `t(key)` that was written once keeps its meaning only if the phrase keeps its key. In a
session whose keys are translations, steps of work follow each other: files are edited, units are
rewritten, pending phrases are flushed, locale files are reconciled. `Project.Settled` is what every
step keeps: the index is that of the source file, nothing that is pending has a key, and the locale
files are different files. It is what makes a flush and a reconciliation leave the keys of all
phrases in use alone.

Results:
* `Project.settled_of_step`: every step keeps a session settled.
* `Project.lookup?_of_reconciled`: one reconciliation leaves the key of a phrase alone, unless the
  phrase was just translated or its key was removed.
* `Project.lookup?_eq_of_run`: after any steps, a flush and a reconciliation leave the keys of the
  phrases in use alone, and those of all phrases if nothing is removed.
-/

namespace Phrasebook.Project

variable {project : Project} {before after : Session}

/-! ## Steps -/

/-- The files changed, but neither locale file reads differently. -/
structure KeepsLocales (project : Project) (before after : FileTree) : Prop where
  workingDirectory : after.workingDirectory = before.workingDirectory
  source : after.readText (project.locales.pathOf project.locales.sourceLanguage)
    = before.readText (project.locales.pathOf project.locales.sourceLanguage)
  target : after.readText (project.locales.pathOf project.locales.targetLanguage)
    = before.readText (project.locales.pathOf project.locales.targetLanguage)

/-- A step that brings index and locale files in line. -/
inductive Syncs (project : Project) : Session → Session → Prop
  | flush {before after : Session} {translator : Translator} {flush : Flush}
      (h : (project.flush translator).runOn before = (.ok flush, after)) :
      Syncs project before after
  | reconcile {before after : Session} {reconciliation : Reconciliation}
      (h : (project.reconcile []).runOn before = (.ok reconciliation, after)) :
      Syncs project before after

/-- A step of work without a problem. -/
inductive Step (project : Project) : Session → Session → Prop
  | edit {before : Session} {files : FileTree}
      (h : project.KeepsLocales before.files files) : Step project before { before with files }
  | rewrite {before after : Session} {mode : BuildMode} {unit : SourceUnit}
      {rewriting : Rewriting}
      (h : (project.rewrite mode unit).runOn before = (.ok rewriting, after)) :
      Step project before after
  | collect {before after : Session} {mode : BuildMode} {unit : SourceUnit}
      {rewriting : Rewriting}
      (h : (project.rewriteCollecting mode unit).runOn before = (.ok rewriting, after)) :
      Step project before after
  | sync {before after : Session} (h : project.Syncs before after) : Step project before after

/-! ## What every step keeps -/

/-- The index is that of the source file, nothing that is pending has a key, and the locale files
are different files. -/
structure Settled (project : Project) (session : Session) : Prop where
  current : project.IsCurrent session
  pending : ∀ {phrase ns}, (phrase, ns) ∈ session.pending.pairs →
    session.index.lookup? ns phrase = none
  apart : project.locales.Apart session.files.workingDirectory

/-- What is translated in a flush had no key. -/
theorem Settled.lookup?_of_mem_outcomesOf (h : project.Settled before) {translator : Translator}
    {outcome : Outcome} (hmem : outcome ∈ project.outcomesOf translator before) :
    before.index.lookup? outcome.ns outcome.phrase = none :=
  h.pending (mem_pairs_of_mem_outcomesOf hmem)

theorem settled_of_keepsLocales {files : FileTree} (h : project.Settled before)
    (hkeeps : project.KeepsLocales before.files files) :
    project.Settled { before with files } := by
  obtain ⟨source, hsource, hindex⟩ := isCurrent_iff.1 h.current
  refine ⟨isCurrent_iff.2 ⟨source, hsource.of_readText_eq hkeeps.source, hindex⟩, h.pending, ?_⟩
  show project.locales.Apart files.workingDirectory
  rw [hkeeps.workingDirectory]
  exact h.apart

theorem settled_of_requested (h : project.Settled before) (hrequested : Requested before after) :
    project.Settled after := by
  obtain ⟨source, hsource, hindex⟩ := isCurrent_iff.1 h.current
  constructor
  · refine isCurrent_iff.2 ⟨source, ?_, hrequested.index.trans hindex⟩
    rw [hrequested.files]
    exact hsource
  · intro phrase ns hmem
    rw [hrequested.index]
    rcases hrequested.pending hmem with hold | hnone
    · exact h.pending hold
    · exact hnone
  · rw [hrequested.files]
    exact h.apart

section Target

variable (hlanguage : project.settings.keyLanguage = .target)
include hlanguage

/-- **One reconciliation leaves the key of a phrase alone**, unless the phrase was just translated
or its key was removed. -/
theorem lookup?_of_reconciled {outcomes : List Outcome} {reconciliation : Reconciliation}
    (h : project.Reconciled outcomes before after reconciliation)
    (current : project.IsCurrent before)
    (apart : project.locales.Apart before.files.workingDirectory)
    (unshared : Outcome.Unshared before.index outcomes) {ns phrase key : String}
    (hnone : ∀ outcome ∈ outcomes, ¬(outcome.ns = ns ∧ outcome.phrase = phrase))
    (hlookup : before.index.lookup? ns phrase = some key)
    (hkept : project.settings.prune = false ∨ ¬project.Searchable before.files
      ∨ project.Finds before.files ns phrase) :
    after.index.lookup? ns phrase = some key := by
  obtain ⟨source, target, hmerges⟩ := h.merges apart current
  have hindex := hmerges.indexBefore
  rw [indexOf_target hlanguage] at hindex
  rw [hmerges.indexAfter, indexOf_target hlanguage]
  refine Merge.lookup?_afterSurvey_of_lookup? hlanguage hindex unshared hnone hlookup ?_
  have hphrase := PhraseIndex.phraseForKey?_of_lookup? hlookup
  rw [hindex, PhraseIndex.phraseForKey?_ofCatalog_target] at hphrase
  -- Either nothing is removed, or a marker call asks for the key.
  by_cases hprune : (project.ruleIn outcomes before).prune = true
  · obtain ⟨hremoves, hsearchable⟩ := (project.prune_ruleIn outcomes before).1 hprune
    rcases hkept with hkept | hkept | hfinds
    · rw [hremoves] at hkept
      cases hkept
    · exact absurd hsearchable hkept
    · refine .inl ⟨phrase, .inr ⟨hfinds, ?_⟩⟩
      rw [Survey.keyOf?_of_forall_ne hnone]
      exact hlookup
  · refine .inr ⟨Bool.not_eq_true _ ▸ hprune, .inl ?_⟩
    rw [hphrase.1]
    rfl

/-- A flush or a reconciliation without outcomes for a phrase leaves its key alone. -/
theorem lookup?_of_syncs (h : project.Syncs before after) (hsettled : project.Settled before)
    {ns phrase key : String} (hlookup : before.index.lookup? ns phrase = some key)
    (hkept : project.settings.prune = false ∨ ¬project.Searchable before.files
      ∨ project.Finds before.files ns phrase) :
    after.index.lookup? ns phrase = some key := by
  cases h with
  | @flush translator _ h =>
    obtain ⟨-, ⟨-, -, hindex⟩ | ⟨houtcomes, reconciliation, hreconciled⟩⟩ := flushed_of_flush h
    · rw [hindex]
      exact hlookup
    · rw [houtcomes] at hreconciled
      have hnone : ∀ outcome ∈ project.outcomesOf translator before,
          ¬(outcome.ns = ns ∧ outcome.phrase = phrase) := by
        rintro outcome hmem ⟨rfl, rfl⟩
        rw [hsettled.lookup?_of_mem_outcomesOf hmem] at hlookup
        cases hlookup
      exact lookup?_of_reconciled hlanguage hreconciled hsettled.current hsettled.apart
        (Outcome.unshared_assign before.index _) hnone hlookup hkept
  | reconcile h =>
    exact lookup?_of_reconciled hlanguage (reconciled_of_reconcile h) hsettled.current
      hsettled.apart (Outcome.unshared_nil before.index)
      (fun outcome hmem => absurd hmem List.not_mem_nil) hlookup hkept

/-- A reconciliation without outcomes gives no phrase a key. -/
theorem lookup?_eq_none_of_reconciled {reconciliation : Reconciliation}
    (h : project.Reconciled [] before after reconciliation)
    (hsettled : project.Settled before) {ns phrase : String}
    (hlookup : before.index.lookup? ns phrase = none) :
    after.index.lookup? ns phrase = none := by
  obtain ⟨source, target, hmerges⟩ := h.merges hsettled.apart hsettled.current
  have hindex := hmerges.indexBefore
  rw [indexOf_target hlanguage] at hindex
  rw [hmerges.indexAfter, indexOf_target hlanguage]
  exact Merge.lookup?_afterSurvey_eq_none hlanguage hindex (Outcome.unshared_nil before.index)
    (fun outcome hmem => absurd hmem List.not_mem_nil) hlookup

theorem settled_of_syncs (h : project.Syncs before after) (hsettled : project.Settled before) :
    project.Settled after := by
  cases h with
  | flush h =>
    obtain ⟨hpending, hcases⟩ := flushed_of_flush h
    have hnothing : ∀ {phrase ns}, (phrase, ns) ∈ after.pending.pairs →
        after.index.lookup? ns phrase = none := by
      intro phrase ns hmem
      rw [hpending] at hmem
      exact absurd hmem Pending.not_mem_pairs_empty
    rcases hcases with ⟨-, hfiles, hindex⟩ | ⟨-, reconciliation, hreconciled⟩
    · refine ⟨?_, hnothing, ?_⟩
      · unfold IsCurrent
        rw [hfiles, hindex]
        exact hsettled.current
      · rw [hfiles]
        exact hsettled.apart
    · refine ⟨hreconciled.isCurrent_iff.2 (.inr hsettled.current), hnothing, ?_⟩
      rw [Reconciliation.workingDirectory_of_run hreconciled.files]
      exact hsettled.apart
  | reconcile h =>
    have hreconciled := reconciled_of_reconcile h
    refine ⟨hreconciled.isCurrent_iff.2 (.inr hsettled.current), fun {phrase ns} hmem => ?_, ?_⟩
    · rw [hreconciled.pending] at hmem
      exact lookup?_eq_none_of_reconciled hlanguage hreconciled hsettled (hsettled.pending hmem)
    · rw [Reconciliation.workingDirectory_of_run hreconciled.files]
      exact hsettled.apart

/-- **Every step keeps a session settled.** -/
theorem settled_of_step (h : project.Step before after) (hsettled : project.Settled before) :
    project.Settled after := by
  cases h with
  | edit h => exact settled_of_keepsLocales hsettled h
  | rewrite h => exact settled_of_requested hsettled (requested_of_rewrite h)
  | collect h => exact settled_of_requested hsettled (requested_of_rewriteCollecting h)
  | sync h => exact settled_of_syncs hlanguage h hsettled

/-- Any steps keep a session settled. -/
theorem settled_of_run {start : Session} (run : Relation.ReflTransGen project.Step start before)
    (hsettled : project.Settled start) : project.Settled before := by
  induction run with
  | refl => exact hsettled
  | tail _ hstep ih => exact settled_of_step hlanguage hstep ih

/-- **Phrases in use keep their keys.** Work starts with the index of the source file and with
nothing pending; then any steps follow. A flush or a reconciliation after them leaves the key of a
phrase as it is if keys are not removed, if some file cannot be searched, or if some file has a
marker call for the phrase. -/
theorem lookup?_eq_of_run {start : Session} (current : project.IsCurrent start)
    (fresh : start.pending = Pending.empty)
    (apart : project.locales.Apart start.files.workingDirectory)
    (run : Relation.ReflTransGen project.Step start before) (sync : project.Syncs before after)
    {ns phrase key : String} (hlookup : before.index.lookup? ns phrase = some key)
    (hkept : project.settings.prune = false ∨ ¬project.Searchable before.files
      ∨ project.Finds before.files ns phrase) :
    after.index.lookup? ns phrase = some key := by
  have hstart : project.Settled start := by
    refine ⟨current, fun {phrase ns} hmem => ?_, apart⟩
    rw [fresh] at hmem
    exact absurd hmem Pending.not_mem_pairs_empty
  exact lookup?_of_syncs hlanguage sync (settled_of_run hlanguage run hstart) hlookup hkept

end Target

/-- The small project reconciles after a rewritten unit and a flush. -/
theorem lookup?_small_of_run :
    smallFlushed.index.lookup? "default" "你好" = some "hello"
      ∧ ((small.reconcile []).runOn smallFlushed).2.index.lookup? "default" "你好"
        = some "hello" := by
  have hlookup : smallFlushed.index.lookup? "default" "你好" = some "hello" := by decide +kernel
  obtain ⟨_, hrewrite⟩ := SessionAction.exists_runOn_eq_ok
    (small.rewrite .development smallUnit) (smallStart []) (by decide +kernel)
  obtain ⟨_, hflush⟩ := SessionAction.exists_runOn_eq_ok
    (small.flush smallTranslator) smallAsked (by decide +kernel)
  obtain ⟨_, hreconcile⟩ := SessionAction.exists_runOn_eq_ok
    (small.reconcile []) smallFlushed (by decide +kernel)
  have run : Relation.ReflTransGen small.Step (smallStart []) smallFlushed :=
    .tail (.tail .refl (.rewrite hrewrite)) (.sync (.flush hflush))
  have current : small.IsCurrent (smallStart []) := by decide +kernel
  have finds : small.Finds smallFlushed.files "default" "你好" := by decide +kernel
  exact ⟨hlookup, lookup?_eq_of_run rfl current rfl apart_smallStart run (.reconcile hreconcile)
    hlookup (.inr (.inr finds))⟩

end Phrasebook.Project
