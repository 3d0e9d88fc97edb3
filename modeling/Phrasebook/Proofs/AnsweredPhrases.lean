import Phrasebook.Proofs.MergeFixpoint
import Phrasebook.Proofs.Pruning

/-!
# Answered phrases

A reconciliation that leaves no phrase in use without a key has brought the locale files to rest: the
index of the new source catalog answers each phrase with the key that the reconciliation gave it, so
another survey finds the same keys in use, and a merge with them has nothing to do. The keys may be
translations or phrases, and unused keys may be removed or not.

Results:
* `Project.Answered.eq_of_asks`: a key that was asked for a phrase carries no other one afterwards.
* `Project.Answered.lookup?_of_asks`: if unused keys are removed, it is the key of its phrase.
* `Project.Answered.rests`: the next merge is at rest.
-/

namespace Phrasebook.Project

variable {project : Project} {outcomes : List Outcome} {before after : Session}
  {source target : Catalog} {ns key phrase : String}

/-- A key is asked for a phrase in a reconciliation. -/
def Asks (project : Project) (outcomes : List Outcome) (session : Session)
    (ns key phrase : String) : Prop :=
  Survey.Asks project.scope project.rules session.files (project.searched session.files) outcomes
    session.index ns key phrase

/-- Without outcomes, the keys in use are the looked up ones. -/
theorem isSome_used_iff {session : Session} :
    ((project.surveyOf [] session).used.get? ns key).isSome
      ↔ ∃ phrase, project.Finds session.files ns phrase
        ∧ session.index.lookup? ns phrase = some key := by
  unfold surveyOf
  constructor
  · intro hused
    obtain ⟨phrase, hphrase⟩ := Option.isSome_iff_exists.1 hused
    exact ⟨phrase, Survey.finds_of_get?_used _ _ _ _ hphrase⟩
  · rintro ⟨phrase, hfound, hkey⟩
    exact Survey.get?_used_of_finds _ _ _ _ hfound hkey

/-- A reconciliation after which every phrase in use has a key. -/
structure Answered (project : Project) (outcomes : List Outcome) (before after : Session)
    (source target : Catalog) : Prop extends
    project.Merges outcomes before after source target where
  searchable : project.Searchable before.files
  unshared : Outcome.Unshared before.index outcomes
  /-- No phrase of a namespace has two outcomes. -/
  once : ∀ first ∈ outcomes, ∀ second ∈ outcomes,
    first.ns = second.ns → first.phrase = second.phrase → first = second
  /-- The outcomes are of phrases in use. -/
  found : ∀ outcome ∈ outcomes, project.Finds before.files outcome.ns outcome.phrase
  translated : ∀ outcome ∈ outcomes, outcome.value ≠ project.settings.untranslated
  /-- Keys that are phrases stand for their phrases. -/
  plain : project.settings.keyLanguage = .source →
    ∀ outcome ∈ outcomes, Key.unescape outcome.key = outcome.phrase
  answered : ∀ {ns phrase}, project.Finds before.files ns phrase →
    ∃ key, after.index.lookup? ns phrase = some key

namespace Answered

/-! ## The keys of phrases -/

theorem carried_iff (h : project.Answered outcomes before after source target) :
    after.index.phraseForKey? ns key = some phrase
      ↔ ∃ value, ((project.mergedOf outcomes before source target).source.get? ns key = some value
          ∧ value ≠ project.settings.untranslated)
        ∧ PhraseTables.phraseOf project.settings.keyLanguage key value = phrase := by
  rw [h.indexAfter]
  exact PhraseIndex.phraseForKey?_ofCatalog_eq_some_iff

/-- A key that carries a phrase is in the source catalog. -/
theorem exists_get?_of_carried (h : project.Answered outcomes before after source target)
    (hcarried : after.index.phraseForKey? ns key = some phrase) :
    ∃ value, (project.mergedOf outcomes before source target).source.get? ns key = some value
      ∧ value ≠ project.settings.untranslated := by
  obtain ⟨value, hvalue, -⟩ := h.carried_iff.1 hcarried
  exact ⟨value, hvalue⟩

/-- What a key is asked for is in use, and has the key by the outcomes and the index. -/
theorem finds_of_asks (h : project.Answered outcomes before after source target)
    (hasks : project.Asks outcomes before ns key phrase) :
    project.Finds before.files ns phrase
      ∧ Survey.keyOf? outcomes before.index ns phrase = some key := by
  rcases hasks with ⟨outcome, hmem, rfl, rfl, rfl⟩ | hfinds
  · refine ⟨h.found outcome hmem, ?_⟩
    obtain ⟨other, hother⟩ := Option.isSome_iff_exists.1
      (isSome_find?_both_iff.2 ⟨outcome, hmem, rfl, rfl⟩)
    obtain ⟨hfound, hns, hphrase⟩ := mem_of_find?_both hother
    obtain rfl := h.once other hfound outcome hmem hns hphrase
    unfold Survey.keyOf?
    rw [hother]
    rfl
  · exact hfinds

/-- A key that is a phrase stands for the phrase that it is asked for. -/
theorem unescape_of_asks (h : project.Answered outcomes before after source target)
    (hlanguage : project.settings.keyLanguage = .source)
    (hasks : project.Asks outcomes before ns key phrase) : Key.unescape key = phrase := by
  rcases Survey.keyOf?_eq_some (h.finds_of_asks hasks).2 with
    ⟨outcome, hmem, -, rfl, rfl⟩ | ⟨-, hlookup⟩
  · exact h.plain hlanguage outcome hmem
  · have hcarried := PhraseIndex.phraseForKey?_of_lookup? hlookup
    rw [h.indexBefore] at hcarried
    obtain ⟨_, -, hphrase⟩ := PhraseIndex.phraseForKey?_ofCatalog_eq_some_iff.1 hcarried
    rw [hlanguage] at hphrase
    exact hphrase

/-- **A key that was asked for a phrase carries no other one.** -/
theorem eq_of_asks (h : project.Answered outcomes before after source target)
    (hasks : project.Asks outcomes before ns key phrase) {carried : String}
    (hcarried : after.index.phraseForKey? ns key = some carried) : carried = phrase := by
  obtain ⟨value, ⟨hvalue, hne⟩, rfl⟩ := h.carried_iff.1 hcarried
  cases hlanguage : project.settings.keyLanguage with
  | source => exact h.unescape_of_asks hlanguage hasks
  | target =>
    show value = phrase
    have hrule : (project.ruleIn outcomes before).keyLanguage = .target := hlanguage
    rcases ((Merge.get?_source_afterSurvey_iff hrule h.unshared hne).1 hvalue).2 with
      hold | ⟨-, hboth⟩
    · -- The key had a phrase before, and keys are not shared.
      have hindexed : before.index.phraseForKey? ns key = some value := by
        rw [h.indexBefore, indexOf_target hlanguage]
        exact PhraseIndex.phraseForKey?_ofCatalog_target.2 ⟨hold, hne⟩
      rcases hasks with ⟨outcome, hmem, rfl, rfl, rfl⟩ | ⟨-, hkey⟩
      · exact h.unshared.index outcome hmem value hindexed
      · rcases Survey.keyOf?_eq_some hkey with ⟨outcome, hmem, rfl, rfl, rfl⟩ | ⟨-, hlookup⟩
        · exact h.unshared.index outcome hmem value hindexed
        · rw [PhraseIndex.phraseForKey?_of_lookup? hlookup] at hindexed
          exact (Option.some.inj hindexed).symm
    · exact Survey.Asks.unique h.unshared hboth hasks

/-- If unused keys are removed, the keys that are left are those that were asked for a phrase. -/
theorem isSome_get?_iff (h : project.Answered outcomes before after source target)
    (hprune : project.settings.prune = true) :
    ((project.mergedOf outcomes before source target).source.get? ns key).isSome
      ↔ ∃ phrase, project.Asks outcomes before ns key phrase := by
  have hrule := (project.prune_ruleIn outcomes before).2 ⟨hprune, h.searchable⟩
  have hkeeps : (project.ruleIn outcomes before).Keeps project.scope project.rules before.files
      (project.searched before.files) outcomes before.index source target ns key
        ↔ ∃ phrase, project.Asks outcomes before ns key phrase := Merge.keeps_iff_asks hrule
  rw [← hkeeps, ← Merge.keeps_iff]
  unfold mergedOf Merge.afterSurvey
  rw [Merge.get?_source_run]
  split <;> simp [*]

/-- **If unused keys are removed, a key that was asked for a phrase is the key of that phrase**
afterwards. -/
theorem lookup?_of_asks (h : project.Answered outcomes before after source target)
    (hprune : project.settings.prune = true)
    (hasks : project.Asks outcomes before ns key phrase) :
    after.index.lookup? ns phrase = some key := by
  obtain ⟨hfinds, hkey⟩ := h.finds_of_asks hasks
  obtain ⟨answer, hanswer⟩ := h.answered hfinds
  have hcarried := PhraseIndex.phraseForKey?_of_lookup? hanswer
  -- The answer is a key that was asked for something, which can only be the phrase.
  obtain ⟨value, hvalue, -⟩ := h.exists_get?_of_carried hcarried
  have hthere : ((project.mergedOf outcomes before source target).source.get? ns answer).isSome := by
    rw [hvalue]
    rfl
  obtain ⟨other, hother⟩ := (h.isSome_get?_iff hprune).1 hthere
  obtain rfl := h.eq_of_asks hother hcarried
  obtain ⟨-, hanswered⟩ := h.finds_of_asks hother
  rw [hkey] at hanswered
  rw [hanswer, Option.some.inj hanswered]

/-! ## The next merge -/

/-- Nothing else is known of a target value that is the untranslated mark. -/
theorem eq_of_targetValue? (h : project.Answered outcomes before after source target)
    {again : Session} {known : String}
    (hvalue : (project.mergedOf outcomes before source target).target.get? ns key
      = some project.settings.untranslated)
    (hknown : (project.ruleIn [] again).targetValue? [] ns key = some known) :
    known = project.settings.untranslated := by
  refine Merge.eq_of_get?_target_run hvalue ?_
  unfold Merge.targetValue? at hknown ⊢
  rw [List.find?_nil, Option.map_none, Option.none_or] at hknown
  cases houtcome : outcomes.find? fun outcome => outcome.ns == ns && outcome.key == key with
  | none => exact hknown
  | some outcome =>
    -- An outcome would have given the key its value, which is not the mark.
    have hgiven : (project.ruleIn outcomes before).targetValue? outcomes ns key
        = some outcome.value := by
      unfold Merge.targetValue?
      rw [houtcome]
      rfl
    exact absurd (Merge.eq_of_get?_target_run hvalue hgiven)
      (h.translated outcome (mem_of_find?_both houtcome).1)

section Again

variable {again : Session} (h : project.Answered outcomes before after source target)
  (hindex : again.index = after.index)
include h hindex

/-- A key in use is in the source catalog, with a value other than the untranslated mark. -/
theorem exists_get?_of_used (hused : ((project.surveyOf [] again).used.get? ns key).isSome) :
    ∃ value, (project.mergedOf outcomes before source target).source.get? ns key = some value
      ∧ value ≠ project.settings.untranslated := by
  obtain ⟨phrase, -, hkey⟩ := isSome_used_iff.1 hused
  rw [hindex] at hkey
  exact h.exists_get?_of_carried (PhraseIndex.phraseForKey?_of_lookup? hkey)

/-- Nothing else is known of a source value that is the untranslated mark. -/
theorem eq_of_sourceValue? {known : String}
    (hvalue : (project.mergedOf outcomes before source target).source.get? ns key
      = some project.settings.untranslated)
    (hknown : (project.ruleIn [] again).sourceValue? (project.surveyOf [] again).used ns key
      = some known) : known = project.settings.untranslated := by
  have hunused : (project.surveyOf [] again).used.get? ns key = none := by
    by_contra hused
    obtain ⟨value, hother, hne⟩ :=
      h.exists_get?_of_used hindex (Option.isSome_iff_ne_none.2 hused)
    rw [hvalue] at hother
    exact hne (Option.some.inj hother).symm
  unfold Merge.sourceValue? at hknown
  rw [hunused, Option.none_or] at hknown
  split at hknown
  · next hlanguage =>
    cases hknown
    -- The merge before knew the text of the key too, or a phrase that the key stands for.
    have hbefore : ∀ known, (project.ruleIn outcomes before).sourceValue?
        (Merge.withOutcomes (project.surveyOf outcomes before).used outcomes) ns key = some known →
        known = project.settings.untranslated :=
      fun known hknown => Merge.eq_of_get?_source_run hvalue hknown
    have hlanguageBefore : (project.ruleIn outcomes before).keyLanguage = .source := hlanguage
    unfold Merge.sourceValue? at hbefore
    rw [if_pos hlanguageBefore] at hbefore
    cases hused : (Merge.withOutcomes (project.surveyOf outcomes before).used outcomes).get? ns
        key with
    | none => exact hbefore _ (by rw [hused]; rfl)
    | some phrase =>
      have hasks : project.Asks outcomes before ns key phrase :=
        Survey.asks_of_get?_withOutcomes hused
      rw [h.unescape_of_asks hlanguage hasks]
      exact hbefore phrase (by rw [hused]; rfl)
  · cases hknown

variable (hfinds : ∀ ns phrase,
  project.Finds again.files ns phrase ↔ project.Finds before.files ns phrase)
include hfinds

/-- If unused keys are removed, every key that is left is in use. -/
theorem isSome_used (hprune : project.settings.prune = true)
    (hkey : ((project.mergedOf outcomes before source target).source.get? ns key).isSome) :
    ((project.surveyOf [] again).used.get? ns key).isSome := by
  obtain ⟨phrase, hasks⟩ := (h.isSome_get?_iff hprune).1 hkey
  refine isSome_used_iff.2 ⟨phrase, (hfinds ns phrase).2 (h.finds_of_asks hasks).1, ?_⟩
  rw [hindex]
  exact h.lookup?_of_asks hprune hasks

/-- **The next merge is at rest.** -/
theorem rests :
    (project.ruleIn [] again).Rests (project.surveyOf [] again).used
      (project.mergedOf outcomes before source target).source
      (project.mergedOf outcomes before source target).target where
  added ns key hused := by
    obtain ⟨value, hvalue, -⟩ := h.exists_get?_of_used hindex hused
    rw [hvalue]
    rfl
  keys ns key := Merge.isSome_get?_afterSurvey _ _ _ _ _ _ _
  namespaces ns := Merge.hasNamespace_target_run.trans Merge.hasNamespace_source_run.symm
  pruned hrule ns hns := by
    have hprune := ((project.prune_ruleIn [] again).1 hrule).1
    refine ⟨?_, fun key hkey => h.isSome_used hindex hfinds hprune hkey⟩
    have hruleBefore := (project.prune_ruleIn outcomes before).2 ⟨hprune, h.searchable⟩
    rcases Merge.hasNamespace_source_run.1 hns with ⟨key, hused⟩ | ⟨hfalse, -⟩
    · exact ⟨key, (h.isSome_get?_iff hprune).2 (Survey.isSome_get?_withOutcomes_iff.1 hused)⟩
    · rw [hruleBefore] at hfalse
      cases hfalse
  sourceKnown _ _ _ hvalue hknown := h.eq_of_sourceValue? hindex hvalue hknown
  targetKnown _ _ _ hvalue hknown := h.eq_of_targetValue? hvalue hknown

end Again

end Answered

end Phrasebook.Project
