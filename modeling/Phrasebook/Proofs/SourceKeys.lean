import Phrasebook.Proofs.FlushedPhrases
import Phrasebook.Proofs.Key

/-!
# Keys that are phrases

If the keys of a project are its escaped phrases, an index reads the phrase of a key off the key
itself. A flush then makes the escaped phrase the key of each phrase that is the text of some key,
whatever marks its conflicts left. A phrase with an escaped separator in it is the text of no key:
it can be translated, but it never gets a key that stands for it.

Results:
* `Merge.exists_get?_afterSurvey_of_asks`: a key that is asked for a phrase has a source value in
  the end.
* `Project.exists_key_of_mem_outcomesOf`: the escaped form of a translated phrase is the key of some
  outcome.
* `Project.lookup?_escape_of_flush`: the keys of translated phrases after a flush.
-/

namespace Phrasebook

namespace Merge

variable {scope : SourceScope} {rules : MarkerRules} {tree : FileTree} {files : List String}
  {rule : Merge} {outcomes : List Outcome} {index : PhraseIndex} {ns key phrase : String}

/-- **A key that is asked for a phrase has a value afterwards**: the one that the source catalog
held, or else the phrase. -/
theorem exists_get?_afterSurvey_of_asks (source target : Catalog)
    (unshared : Outcome.Unshared index outcomes)
    (hasks : Survey.Asks scope rules tree files outcomes index ns key phrase)
    (hphrase : phrase ≠ rule.untranslated) :
    ∃ value, (rule.afterSurvey scope rules tree files outcomes index source target).source.get? ns
        key = some value ∧ value ≠ rule.untranslated := by
  have hkeeps : rule.Keeps scope rules tree files outcomes index source target ns key :=
    .inl ⟨phrase, hasks⟩
  have hknown : rule.sourceValue? (withOutcomes (Survey.ofFiles scope rules
      (Survey.keyOf? outcomes index) tree files).used outcomes) ns key = some phrase := by
    unfold sourceValue?
    rw [(Survey.get?_withOutcomes_iff unshared).2 hasks, Option.some_or]
  unfold afterSurvey
  rw [get?_source_run, if_pos (keeps_iff.2 hkeeps), hknown]
  refine ⟨_, rfl, fun hmark => hphrase ?_⟩
  exact eq_of_settled_eq hmark

end Merge

namespace Project

variable {project : Project} {before after : Session}

/-- The index of a catalog, when keys are phrases. -/
theorem indexOf_source (hlanguage : project.settings.keyLanguage = .source) (catalog : Catalog) :
    project.indexOf catalog
      = PhraseIndex.ofCatalog catalog .source project.settings.untranslated := by
  unfold indexOf
  rw [hlanguage]

/-- **The escaped form of a translated phrase is the key of some outcome**, though that may be the
outcome of another phrase. -/
theorem exists_key_of_mem_outcomesOf (hlanguage : project.settings.keyLanguage = .source)
    {catalog : Catalog} (hindex : before.index = project.indexOf catalog)
    {translator : Translator} {outcome : Outcome}
    (hmem : outcome ∈ project.outcomesOf translator before)
    (hplain : ¬Key.escapedSeparator <:+: outcome.phrase.toList) :
    ∃ other ∈ project.outcomesOf translator before,
      other.ns = outcome.ns ∧ other.key = Key.escape outcome.phrase := by
  obtain ⟨candidate, hcandidate, hphrase, hns, -⟩ := Outcome.exists_of_mem_assignAfter hmem
  have hkey : candidate.key = Key.escape candidate.phrase := by
    obtain ⟨translation, -, hsame⟩ := exists_of_mem_candidatesOf hcandidate
    rw [hsame]
    unfold Wording.candidate Wording.key Settings.wording
    rw [hlanguage]
  rw [hphrase, hns, ← hkey]
  rcases @Outcome.isHeld_of_mem_assignAfter before.index [] _ _ hcandidate with
    ⟨existing, hcarried, hne⟩ | hheld
  · -- The index would read the phrase off its escaped form.
    rw [hindex, indexOf_source hlanguage, hkey] at hcarried
    obtain ⟨htext, -⟩ := PhraseIndex.phraseForKey?_ofCatalog_source.1 hcarried
    rw [hphrase] at hplain
    rw [(Key.unescape_escape_eq_iff _).2 hplain] at htext
    exact absurd htext.symm hne
  · exact hheld

/-- **The keys of translated phrases, when keys are phrases.** A flush starts with the index of the
source file. Afterwards a translated phrase without an escaped separator has its escaped form as its
key, unless that is the key of an outcome for the untranslated mark. A phrase with an escaped
separator has no key. No key is that of two phrases. -/
theorem lookup?_escape_of_flush (hlanguage : project.settings.keyLanguage = .source)
    {translator : Translator} {flush : Flush}
    (h : (project.flush translator).runOn before = (.ok flush, after))
    (current : project.IsCurrent before)
    (apart : project.locales.Apart before.files.workingDirectory) {outcome : Outcome}
    (hmem : outcome ∈ flush.outcomes) :
    (¬Key.escapedSeparator <:+: outcome.phrase.toList →
      (∀ other ∈ flush.outcomes, other.ns = outcome.ns →
        other.key = Key.escape outcome.phrase → other.phrase ≠ project.settings.untranslated) →
      after.index.lookup? outcome.ns outcome.phrase = some (Key.escape outcome.phrase))
    ∧ (Key.escapedSeparator <:+: outcome.phrase.toList →
      after.index.lookup? outcome.ns outcome.phrase = none)
    ∧ ∀ other ∈ flush.outcomes, ∀ key,
      after.index.lookup? outcome.ns outcome.phrase = some key →
      after.index.lookup? other.ns other.phrase = some key → other.phrase = outcome.phrase := by
  obtain ⟨houtcomes, source, target, hmerges⟩ := exists_merges_of_flush h current apart hmem
  have hcarried : ∀ {ns key phrase}, after.index.phraseForKey? ns key = some phrase ↔
      Key.unescape key = phrase ∧ ∃ value,
        (project.mergedOf flush.outcomes (unpended before) source target).source.get? ns key
          = some value ∧ value ≠ project.settings.untranslated := by
    rw [hmerges.indexAfter, indexOf_source hlanguage]
    exact PhraseIndex.phraseForKey?_ofCatalog_source
  have htext : ∀ {ns key phrase}, after.index.lookup? ns phrase = some key →
      Key.unescape key = phrase :=
    fun hlookup => (hcarried.1 (PhraseIndex.phraseForKey?_of_lookup? hlookup)).1
  refine ⟨fun hplain hmark => ?_, fun hescaped => ?_, fun other _ key hkey hother => ?_⟩
  · have unshared : Outcome.Unshared (unpended before).index flush.outcomes := by
      rw [houtcomes]
      exact Outcome.unshared_assign before.index _
    have hindex : before.index = project.indexOf source := hmerges.indexBefore
    obtain ⟨holder, hholder, hns, hkey⟩ : ∃ other ∈ flush.outcomes,
        other.ns = outcome.ns ∧ other.key = Key.escape outcome.phrase := by
      rw [houtcomes] at hmem ⊢
      exact exists_key_of_mem_outcomesOf hlanguage hindex hmem hplain
    have hvalue : ∃ value, (project.mergedOf flush.outcomes (unpended before) source
        target).source.get? outcome.ns (Key.escape outcome.phrase) = some value
          ∧ value ≠ project.settings.untranslated :=
      Merge.exists_get?_afterSurvey_of_asks source target unshared
        (.inl ⟨holder, hholder, hns, hkey, rfl⟩) (hmark holder hholder hns hkey)
    refine PhraseIndex.lookup?_eq_some_iff.2
      ⟨hcarried.2 ⟨(Key.unescape_escape_eq_iff _).2 hplain, hvalue⟩, fun key hsame => ?_⟩
    rw [← (hcarried.1 hsame).1]
    exact Key.escape_unescape_le key
  · rw [PhraseIndex.lookup?_eq_none_iff]
    intro key hsame
    rw [← (hcarried.1 hsame).1] at hescaped
    exact Key.not_infix_unescape key hescaped
  · rw [← htext hkey, htext hother]

/-- The small project with keys that are phrases. -/
def smallPhrased : Project :=
  { small with settings := { small.settings with keyLanguage := .source } }

/-- The small project when a phrase waits for its translation. -/
def smallWaiting (phrase : String) : Session :=
  { smallStart [] with pending := Pending.empty.add phrase "default" smallUnit.path }

/-- A phrase with a separator gets its escaped form as its key. -/
theorem lookup?_escape_small_of_flush :
    ((smallPhrased.flush smallTranslator).runOn (smallWaiting "a:b")).2.index.lookup? "default"
      "a:b" = some "a&#58;b" := by
  obtain ⟨flush, hflush⟩ := SessionAction.exists_runOn_eq_ok
    (smallPhrased.flush smallTranslator) (smallWaiting "a:b") (by decide +kernel)
  have houtcomes : ((smallPhrased.flush smallTranslator).runOn
      (smallWaiting "a:b")).1.toOption.map (·.outcomes)
      = some [⟨"a:b", "default", "a&#58;b", "hello", false⟩] := by decide +kernel
  rw [hflush] at houtcomes
  have hlist : flush.outcomes = [⟨"a:b", "default", "a&#58;b", "hello", false⟩] :=
    Option.some.inj houtcomes
  have hmem : ⟨"a:b", "default", "a&#58;b", "hello", false⟩ ∈ flush.outcomes := by
    rw [hlist]
    exact List.mem_cons_self
  have current : smallPhrased.IsCurrent (smallWaiting "a:b") := by decide +kernel
  have apart : smallPhrased.locales.Apart (smallWaiting "a:b").files.workingDirectory := by
    decide +kernel
  refine (lookup?_escape_of_flush rfl hflush current apart hmem).1 (by decide) ?_
  intro other hother _ _
  rw [hlist, List.mem_singleton] at hother
  subst hother
  decide

/-- **A phrase with an escaped separator gets no key**, though its translation is in both files. -/
theorem not_lookup?_escape_of_flush :
    ¬∀ (project : Project) (translator : Translator) (flush : Flush) (before after : Session)
      (outcome : Outcome), project.settings.keyLanguage = .source →
      (project.flush translator).runOn before = (.ok flush, after) →
      project.IsCurrent before →
      project.locales.Apart before.files.workingDirectory →
      outcome ∈ flush.outcomes → outcome.phrase ≠ project.settings.untranslated →
      ∃ key, after.index.lookup? outcome.ns outcome.phrase = some key := by
  intro hall
  obtain ⟨flush, hflush⟩ := SessionAction.exists_runOn_eq_ok
    (smallPhrased.flush smallTranslator) (smallWaiting "a&#58;b") (by decide +kernel)
  have houtcomes : ((smallPhrased.flush smallTranslator).runOn
      (smallWaiting "a&#58;b")).1.toOption.map (·.outcomes)
      = some [⟨"a&#58;b", "default", "a&#58;b", "hello", false⟩] := by decide +kernel
  rw [hflush] at houtcomes
  have hmem : ⟨"a&#58;b", "default", "a&#58;b", "hello", false⟩ ∈ flush.outcomes := by
    rw [show flush.outcomes = [⟨"a&#58;b", "default", "a&#58;b", "hello", false⟩] from
      Option.some.inj houtcomes]
    exact List.mem_cons_self
  obtain ⟨key, hkey⟩ := hall smallPhrased smallTranslator flush _ _ _ rfl hflush
    (by decide +kernel) (by decide +kernel) hmem (by decide)
  have hnone : ((smallPhrased.flush smallTranslator).runOn
      (smallWaiting "a&#58;b")).2.index.lookup? "default" "a&#58;b" = none := by decide +kernel
  rw [hnone] at hkey
  cases hkey

end Project

end Phrasebook
