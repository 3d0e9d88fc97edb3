import Phrasebook.Proofs.Session

/-!
# What pruning keeps

With pruning on, and when every file can be searched, a reconciliation keeps exactly the keys that
are asked for: those of outcomes, and those that a marker call's phrase has by the outcomes or by
the index of the session. The index may be older than the locale files, so a key that was written
into the files by hand is kept only if the index knows it too.

Results:
* `Project.preserves_of_reconcile`: a key that is asked for stays in both files with its values, any
  other key goes from both; with a current index, the first key of a phrase in use is asked for.
* `Project.not_preserves_of_reconcile`: an older index loses a key in use.
-/

namespace Phrasebook

/-- The key is there, with the value that it had unless that was the untranslated mark. -/
structure Catalog.Preserves (untranslated : String) (before after : Catalog) (ns key : String) :
    Prop where
  isSome : (after.get? ns key).isSome
  value : ∀ value, before.get? ns key = some value → value ≠ untranslated →
    after.get? ns key = some value

namespace Merge

variable {scope : SourceScope} {rules : MarkerRules} {tree : FileTree} {files : List String}
  {rule : Merge} {outcomes : List Outcome} {index : PhraseIndex} {source target : Catalog}
  {ns key : String}

/-- A kept key is preserved in both catalogs. -/
theorem preserves_afterSurvey
    (hkeeps : rule.Keeps scope rules tree files outcomes index source target ns key) :
    source.Preserves rule.untranslated
        (rule.afterSurvey scope rules tree files outcomes index source target).source ns key
      ∧ target.Preserves rule.untranslated
        (rule.afterSurvey scope rules tree files outcomes index source target).target ns key := by
  unfold afterSurvey
  constructor
  · constructor
    · rw [get?_source_run, if_pos (keeps_iff.2 hkeeps)]
      rfl
    · intro value hvalue hne
      rw [get?_source_run, if_pos (keeps_iff.2 hkeeps), hvalue, settled_of_ne hne]
  · constructor
    · rw [get?_target_run, if_pos (keeps_iff.2 hkeeps)]
      rfl
    · intro value hvalue hne
      rw [get?_target_run, if_pos (keeps_iff.2 hkeeps), hvalue, settled_of_ne hne]

/-- Any other key goes from both catalogs. -/
theorem get?_afterSurvey_eq_none
    (hkeeps : ¬rule.Keeps scope rules tree files outcomes index source target ns key) :
    (rule.afterSurvey scope rules tree files outcomes index source target).source.get? ns key = none
      ∧ (rule.afterSurvey scope rules tree files outcomes index source target).target.get? ns key
        = none := by
  unfold afterSurvey
  rw [get?_source_run, get?_target_run, if_neg fun h => hkeeps (keeps_iff.1 h),
    if_neg fun h => hkeeps (keeps_iff.1 h)]
  exact ⟨rfl, rfl⟩

/-- A merge that prunes keeps the keys that are asked for. -/
theorem keeps_iff_asks (hprune : rule.prune = true) :
    rule.Keeps scope rules tree files outcomes index source target ns key
      ↔ ∃ phrase, Survey.Asks scope rules tree files outcomes index ns key phrase := by
  unfold Keeps
  rw [hprune]
  simp

end Merge

namespace Project

variable {project : Project} {before after : Session}

/-- A key is asked for: an outcome has it, or the phrase of a marker call has it by the outcomes and
the index. -/
def Asked (project : Project) (outcomes : List Outcome) (session : Session) (ns key : String) :
    Prop :=
  (∃ outcome ∈ outcomes, outcome.ns = ns ∧ outcome.key = key)
    ∨ ∃ phrase, project.Finds session.files ns phrase
      ∧ Survey.keyOf? outcomes session.index ns phrase = some key

theorem asked_iff {outcomes : List Outcome} {ns key : String} :
    project.Asked outcomes before ns key
      ↔ ∃ phrase, Survey.Asks project.scope project.rules before.files
        (project.searched before.files) outcomes before.index ns key phrase := by
  unfold Asked Survey.Asks Finds
  constructor
  · rintro (⟨outcome, hmem, hns, hkey⟩ | ⟨phrase, hfinds, hkey⟩)
    · exact ⟨outcome.phrase, .inl ⟨outcome, hmem, hns, hkey, rfl⟩⟩
    · exact ⟨phrase, .inr ⟨hfinds, hkey⟩⟩
  · rintro ⟨phrase, ⟨outcome, hmem, hns, hkey, -⟩ | ⟨hfinds, hkey⟩⟩
    · exact .inl ⟨outcome, hmem, hns, hkey⟩
    · exact .inr ⟨phrase, hfinds, hkey⟩

/-- With a current index, the first key that carries a phrase in use is asked for. -/
theorem asked_of_least (hlanguage : project.settings.keyLanguage = .target)
    (current : project.IsCurrent before) {source : Catalog}
    (hsource : project.locales.Holds project.locales.sourceLanguage before.files source)
    {outcomes : List Outcome} {ns key phrase : String}
    (hnone : ∀ outcome ∈ outcomes, ¬(outcome.ns = ns ∧ outcome.phrase = phrase))
    (hfinds : project.Finds before.files ns phrase)
    (hphrase : phrase ≠ project.settings.untranslated)
    (hvalue : source.get? ns key = some phrase)
    (hleast : ∀ other, source.get? ns other = some phrase → key ≤ other) :
    project.Asked outcomes before ns key := by
  obtain ⟨held, hheld, hindex⟩ := isCurrent_iff.1 current
  obtain rfl := hheld.unique hsource
  refine .inr ⟨phrase, hfinds, ?_⟩
  rw [Survey.keyOf?_of_forall_ne hnone, hindex, indexOf_target hlanguage,
    PhraseIndex.lookup?_eq_some_iff]
  simp only [PhraseIndex.phraseForKey?_ofCatalog_target]
  exact ⟨⟨hvalue, hphrase⟩, fun other hother => hleast other hother.1⟩

/-- **Pruning keeps exactly the keys that are asked for**, by the outcomes and by the index as it
is, however old. A key that is asked for stays in both files with its values; any other goes from
both. The first key that carries a phrase in use is asked for if the index is that of the source
file and the phrase was not just translated. -/
theorem preserves_of_reconcile {outcomes : List Outcome} {reconciliation : Reconciliation}
    (h : (project.reconcile outcomes).runOn before = (.ok reconciliation, after))
    (hlanguage : project.settings.keyLanguage = .target) (hprune : project.settings.prune = true)
    (searchable : project.Searchable before.files)
    (apart : project.locales.Apart before.files.workingDirectory)
    {source target sourceAfter targetAfter : Catalog}
    (hsource : project.locales.Holds project.locales.sourceLanguage before.files source)
    (htarget : project.locales.Holds project.locales.targetLanguage before.files target)
    (hsourceAfter : project.locales.Holds project.locales.sourceLanguage after.files sourceAfter)
    (htargetAfter : project.locales.Holds project.locales.targetLanguage after.files targetAfter)
    (ns key : String) :
    (project.Asked outcomes before ns key →
        source.Preserves project.settings.untranslated sourceAfter ns key
          ∧ target.Preserves project.settings.untranslated targetAfter ns key)
      ∧ (¬project.Asked outcomes before ns key →
        sourceAfter.get? ns key = none ∧ targetAfter.get? ns key = none)
      ∧ ∀ phrase, project.IsCurrent before →
        (∀ outcome ∈ outcomes, ¬(outcome.ns = ns ∧ outcome.phrase = phrase)) →
        project.Finds before.files ns phrase → phrase ≠ project.settings.untranslated →
        source.get? ns key = some phrase →
        (∀ other, source.get? ns other = some phrase → key ≤ other) →
        project.Asked outcomes before ns key := by
  have hreconciled := reconciled_of_reconcile h
  obtain rfl := hsourceAfter.unique
    (Reconciliation.holds_source_of_run apart hreconciled.files hsource htarget)
  obtain rfl := htargetAfter.unique
    (Reconciliation.holds_target_of_run hreconciled.files hsource htarget)
  have hrule : (project.ruleIn outcomes before).prune = true :=
    (project.prune_ruleIn outcomes before).2 ⟨hprune, searchable⟩
  have hkeeps : (project.ruleIn outcomes before).Keeps project.scope project.rules before.files
      (project.searched before.files) outcomes before.index source target ns key
        ↔ project.Asked outcomes before ns key := by
    rw [Merge.keeps_iff_asks hrule, asked_iff]
  refine ⟨fun hasked => ?_, fun hasked => ?_, ?_⟩
  · exact Merge.preserves_afterSurvey (hkeeps.2 hasked)
  · exact Merge.get?_afterSurvey_eq_none fun hkept => hasked (hkeeps.1 hkept)
  · intro phrase current hnone hfinds hphrase hvalue hleast
    exact asked_of_least hlanguage current hsource hnone hfinds hphrase hvalue hleast

/-- The small project keeps a handwritten key that its index knows. -/
theorem preserves_small_of_reconcile :
    (smallCatalog "greet" "Hi there").Preserves "__NOT_TRANSLATED__"
      (smallCatalog "greet" "Hi there") "default" "greet" := by
  have hreport : ((small.reconcile []).runOn (smallKnown "greet" "Hi there")).1.toOption
      = some ⟨false, false, 0, false⟩ := by decide +kernel
  have hreconcile := SessionAction.runOn_eq_ok hreport
  have hfiles := ((reconciled_of_reconcile hreconcile).eq_of_not_isWritten rfl).1
  have searchable : small.Searchable (smallKnown "greet" "Hi there").files := by decide +kernel
  have apart : small.locales.Apart (smallKnown "greet" "Hi there").files.workingDirectory := by
    decide +kernel
  have hsource : small.locales.Holds "zh" (smallKnown "greet" "Hi there").files
      (smallCatalog "greet" "你好") := by decide +kernel
  have htarget : small.locales.Holds "en" (smallKnown "greet" "Hi there").files
      (smallCatalog "greet" "Hi there") := by decide +kernel
  have finds : small.Finds (smallKnown "greet" "Hi there").files "default" "你好" := by
    decide +kernel
  have hkey : Survey.keyOf? [] (smallKnown "greet" "Hi there").index "default" "你好"
      = some "greet" := by decide +kernel
  have hsourceAfter := hsource
  have htargetAfter := htarget
  rw [← hfiles] at hsourceAfter htargetAfter
  have hpreserves := preserves_of_reconcile hreconcile rfl rfl searchable apart hsource htarget
    hsourceAfter htargetAfter "default" "greet"
  exact (hpreserves.1 (.inr ⟨"你好", finds, hkey⟩)).2

/-! ## An older index -/

/-- **An older index loses a key in use**: the phrase of a marker call stands in the source file,
but the index does not know it, and its one key goes. -/
theorem not_preserves_of_reconcile :
    ¬∀ (project : Project) (candidates : List Candidate) (before after : Session)
      (reconciliation : Reconciliation) (source target sourceAfter targetAfter : Catalog)
      (ns key phrase : String),
      project.settings.keyLanguage = .target → project.settings.prune = true →
      (project.reconcile (Outcome.assign before.index candidates).1).runOn before
        = (.ok reconciliation, after) →
      project.Searchable before.files →
      project.locales.Apart before.files.workingDirectory →
      project.locales.Holds project.locales.sourceLanguage before.files source →
      project.locales.Holds project.locales.targetLanguage before.files target →
      project.locales.Holds project.locales.sourceLanguage after.files sourceAfter →
      project.locales.Holds project.locales.targetLanguage after.files targetAfter →
      project.Finds before.files ns phrase → phrase ≠ project.settings.untranslated →
      source.get? ns key = some phrase →
      (∀ other, source.get? ns other = some phrase → key ≤ other) →
      source.Preserves project.settings.untranslated sourceAfter ns key
        ∧ target.Preserves project.settings.untranslated targetAfter ns key := by
  intro hall
  obtain ⟨reconciliation, hreconcile⟩ := SessionAction.exists_runOn_eq_ok (small.reconcile [])
    (smallFilled "greet" "Hi there") (by decide +kernel)
  have hleast : ∀ other, (smallCatalog "greet" "你好").get? "default" other = some "你好" →
      "greet" ≤ other := by
    intro other hother
    unfold smallCatalog at hother
    rw [Catalog.get?_insert] at hother
    split at hother
    · next hsame =>
      obtain ⟨-, rfl⟩ := hsame
      exact String.le_refl _
    · cases hother
  have hpreserves := hall small [] (smallFilled "greet" "Hi there") _ reconciliation
    (smallCatalog "greet" "你好") (smallCatalog "greet" "Hi there") Catalog.empty Catalog.empty
    "default" "greet" "你好" rfl rfl hreconcile (by decide +kernel) (by decide +kernel)
    (by decide +kernel) (by decide +kernel) (by decide +kernel) (by decide +kernel)
    (by decide +kernel) (by decide) (by decide +kernel) hleast
  exact absurd hpreserves.1.isSome (by decide)

end Project

end Phrasebook
