import Phrasebook.Proofs.Session

/-!
# What a flush makes of its phrases

A flush translates what is pending, settles the keys of the translations against the index, goes
through the files, merges, saves what changed and then refreshes the index if anything was written.
If the index was that of the source file before, every translated phrase has a key after all that.

Results:
* `Project.exists_lookup?_of_flush`: after a flush every phrase with an outcome has a key that both
  locale files hold. Without a key before, it has the key of its outcome, and there the target file
  holds the translation unless it held a value already.
-/

namespace Phrasebook.Project

variable {project : Project} {before after : Session}

/-- A flush with outcomes merges them. -/
theorem exists_merges_of_flush {translator : Translator} {flush : Flush}
    (h : (project.flush translator).runOn before = (.ok flush, after))
    (current : project.IsCurrent before)
    (apart : project.locales.Apart before.files.workingDirectory) {outcome : Outcome}
    (hmem : outcome ∈ flush.outcomes) :
    flush.outcomes = project.outcomesOf translator before
      ∧ ∃ source target, project.Merges flush.outcomes (unpended before) after source target := by
  obtain ⟨-, ⟨hnone, -, -⟩ | ⟨houtcomes, reconciliation, hreconciled⟩⟩ := flushed_of_flush h
  · rw [hnone] at hmem
    cases hmem
  · exact ⟨houtcomes, hreconciled.merges apart current⟩

/-- **Translated phrases have keys.** A flush starts with the index of the source file; nothing else
is asked of the files, the pending phrases and the translator. Afterwards the phrase of every
outcome, unless it is the untranslated mark itself, has a key. Both locale files hold the key, and
the source file holds the phrase at it. A phrase that had no key before has that of its outcome,
where the target file keeps a value it held and holds the translation otherwise. -/
theorem exists_lookup?_of_flush (hlanguage : project.settings.keyLanguage = .target)
    {translator : Translator} {flush : Flush}
    (h : (project.flush translator).runOn before = (.ok flush, after))
    (current : project.IsCurrent before)
    (apart : project.locales.Apart before.files.workingDirectory) {outcome : Outcome}
    (hmem : outcome ∈ flush.outcomes) (hphrase : outcome.phrase ≠ project.settings.untranslated) :
    ∃ persisted source target key,
      project.locales.Holds project.locales.targetLanguage before.files persisted
      ∧ project.locales.Holds project.locales.sourceLanguage after.files source
      ∧ project.locales.Holds project.locales.targetLanguage after.files target
      ∧ after.index.lookup? outcome.ns outcome.phrase = some key
      ∧ source.get? outcome.ns key = some outcome.phrase
      ∧ (target.get? outcome.ns key).isSome
      ∧ (before.index.lookup? outcome.ns outcome.phrase = none →
        key = outcome.key
        ∧ target.get? outcome.ns outcome.key
          = some (((persisted.get? outcome.ns outcome.key).filter
              (· != project.settings.untranslated)).getD outcome.value)) := by
  obtain ⟨houtcomes, source, target, hmerges⟩ := exists_merges_of_flush h current apart hmem
  have hindex := hmerges.indexBefore
  rw [indexOf_target hlanguage] at hindex
  have hafter := hmerges.indexAfter
  rw [indexOf_target hlanguage] at hafter
  have unshared : Outcome.Unshared (unpended before).index flush.outcomes := by
    rw [houtcomes]
    exact Outcome.unshared_assign before.index _
  have honly : ∀ other ∈ flush.outcomes, other.ns = outcome.ns →
      other.phrase = outcome.phrase → other = outcome := by
    rw [houtcomes] at hmem ⊢
    exact fun other hother => eq_of_mem_outcomesOf hother hmem
  have hkey : ∃ key, after.index.lookup? outcome.ns outcome.phrase = some key := by
    rw [hafter]
    exact Merge.exists_lookup?_afterSurvey hlanguage hindex unshared hmem hphrase
  obtain ⟨key, hkey⟩ := hkey
  -- Looking up gives a key of the merged source catalog, and both catalogs have the same keys.
  have hsource : (project.mergedOf flush.outcomes (unpended before) source target).source.get?
      outcome.ns key = some outcome.phrase := by
    have hcarried := PhraseIndex.phraseForKey?_of_lookup? hkey
    rw [hafter] at hcarried
    exact (PhraseIndex.phraseForKey?_ofCatalog_target.1 hcarried).1
  have htarget : ((project.mergedOf flush.outcomes (unpended before) source target).target.get?
      outcome.ns key).isSome := by
    unfold mergedOf at hsource ⊢
    rw [Merge.isSome_get?_afterSurvey, hsource]
    rfl
  refine ⟨target, _, _, key, hmerges.targetBefore, hmerges.sourceAfter, hmerges.targetAfter, hkey,
    hsource, htarget, fun hnone => ⟨?_, ?_⟩⟩
  · have hnew : after.index.lookup? outcome.ns outcome.phrase = some outcome.key := by
      rw [hafter]
      exact Merge.lookup?_afterSurvey_of_mem hlanguage hindex unshared hmem hphrase
        (fun other hother hns hsame => by rw [honly other hother hns hsame]) hnone
    rw [hkey] at hnew
    exact Option.some.inj hnew
  · exact Merge.get?_target_afterSurvey_of_mem unshared hmem honly

/-- The small project flushes its one phrase. -/
theorem exists_lookup?_small_of_flush :
    ∃ persisted source target key,
      small.locales.Holds "en" smallAsked.files persisted
      ∧ small.locales.Holds "zh" smallFlushed.files source
      ∧ small.locales.Holds "en" smallFlushed.files target
      ∧ smallFlushed.index.lookup? "default" "你好" = some key
      ∧ source.get? "default" key = some "你好"
      ∧ (target.get? "default" key).isSome
      ∧ (smallAsked.index.lookup? "default" "你好" = none →
        key = "hello"
        ∧ target.get? "default" "hello"
          = some (((persisted.get? "default" "hello").filter
              (· != "__NOT_TRANSLATED__")).getD "hello")) := by
  obtain ⟨flush, hflush⟩ := SessionAction.exists_runOn_eq_ok
    (small.flush smallTranslator) smallAsked (by decide +kernel)
  have houtcomes : ((small.flush smallTranslator).runOn smallAsked).1.toOption.map (·.outcomes)
      = some [⟨"你好", "default", "hello", "hello", false⟩] := by decide +kernel
  rw [hflush] at houtcomes
  have hlist : flush.outcomes = [⟨"你好", "default", "hello", "hello", false⟩] :=
    Option.some.inj houtcomes
  have hmem : ⟨"你好", "default", "hello", "hello", false⟩ ∈ flush.outcomes := by
    rw [hlist]
    exact List.mem_cons_self
  have current : small.IsCurrent smallAsked := by decide +kernel
  have apart : small.locales.Apart smallAsked.files.workingDirectory := by decide +kernel
  exact exists_lookup?_of_flush rfl hflush current apart hmem (by decide)

end Phrasebook.Project
