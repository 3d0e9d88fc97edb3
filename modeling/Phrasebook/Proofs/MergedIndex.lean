import Phrasebook.Proofs.Merge
import Phrasebook.Proofs.Survey

/-!
# The index of merged catalogs

A survey, outcomes and the index of the source catalog go into a merge, and a new source catalog
comes out. Its index is compared with the old one here, for keys that are translations. A key is
asked for a phrase (`Survey.Asks`) by an outcome, or by a marker call whose phrase has that key.

Results:
* `Survey.get?_withOutcomes_iff`: the merge knows a phrase of a key exactly if the key is asked for
  it, and no key is asked for two phrases.
* `Merge.lookup?_afterSurvey_of_lookup?`: a phrase without an outcome keeps its key, if the key is
  kept.
* `Merge.lookup?_afterSurvey_eq_none`: a phrase without a key and without an outcome gets none.
* `Merge.exists_lookup?_afterSurvey`, `Merge.lookup?_afterSurvey_of_mem`: the phrase of an outcome
  has a key afterwards, and that of the outcome if it had none before.
* `Merge.get?_target_afterSurvey_of_mem`: the target value of the key of an outcome.
-/

namespace Phrasebook

namespace Survey

section Asked

variable (scope : SourceScope) (rules : MarkerRules) (tree : FileTree) (files : List String)
  (outcomes : List Outcome) (index : PhraseIndex)

/-- A key is asked for a phrase: it is the key of an outcome, or of the phrase of a marker call. -/
def Asks (ns key phrase : String) : Prop :=
  (∃ outcome ∈ outcomes, outcome.ns = ns ∧ outcome.key = key ∧ outcome.phrase = phrase)
    ∨ Finds scope rules tree files ns phrase ∧ keyOf? outcomes index ns phrase = some key

variable {scope rules tree files outcomes index}

/-- **No key is asked for two phrases.** -/
theorem Asks.unique (unshared : Outcome.Unshared index outcomes) {ns key first second : String}
    (hfirst : Asks scope rules tree files outcomes index ns key first)
    (hsecond : Asks scope rules tree files outcomes index ns key second) : first = second := by
  rcases hfirst with ⟨one, hmem, rfl, rfl, rfl⟩ | ⟨-, hone⟩
  · rcases hsecond with ⟨two, hmem', hns, hkey, rfl⟩ | ⟨-, htwo⟩
    · exact unshared.outcomes one hmem two hmem' hns.symm hkey.symm
    · exact (eq_phrase_of_keyOf? unshared hmem htwo).symm
  · rcases hsecond with ⟨two, hmem, rfl, rfl, rfl⟩ | ⟨-, htwo⟩
    · exact eq_phrase_of_keyOf? unshared hmem hone
    · exact keyOf?_injective unshared hone htwo

/-- The keys in use after a survey, with those of outcomes, are asked for their phrases. -/
theorem asks_of_get?_withOutcomes {ns key phrase : String}
    (h : (Merge.withOutcomes (ofFiles scope rules (keyOf? outcomes index) tree files).used
      outcomes).get? ns key = some phrase) :
    Asks scope rules tree files outcomes index ns key phrase := by
  rw [Merge.get?_withOutcomes] at h
  rcases Option.or_eq_some_iff.1 h with hused | ⟨-, houtcome⟩
  · exact .inr (finds_of_get?_used scope rules tree _ hused)
  · obtain ⟨outcome, hfind, hphrase⟩ := Option.map_eq_some_iff.1 houtcome
    obtain ⟨hmem, hns, hkey⟩ := mem_of_find?_both hfind
    exact .inl ⟨outcome, hmem, hns, hkey, hphrase⟩

theorem isSome_get?_withOutcomes_of_asks {ns key phrase : String}
    (h : Asks scope rules tree files outcomes index ns key phrase) :
    ((Merge.withOutcomes (ofFiles scope rules (keyOf? outcomes index) tree files).used
      outcomes).get? ns key).isSome := by
  rw [Merge.isSome_withOutcomes_iff]
  rcases h with ⟨outcome, hmem, rfl, rfl, -⟩ | ⟨hfinds, hkey⟩
  · exact .inr ⟨outcome, hmem, rfl, rfl⟩
  · exact .inl (get?_used_of_finds scope rules tree _ hfinds hkey)

/-- **The known phrase of a key** is the one that the key is asked for. -/
theorem get?_withOutcomes_iff (unshared : Outcome.Unshared index outcomes)
    {ns key phrase : String} :
    (Merge.withOutcomes (ofFiles scope rules (keyOf? outcomes index) tree files).used
        outcomes).get? ns key = some phrase
      ↔ Asks scope rules tree files outcomes index ns key phrase := by
  refine ⟨asks_of_get?_withOutcomes, fun h => ?_⟩
  obtain ⟨known, hknown⟩ := Option.isSome_iff_exists.1 (isSome_get?_withOutcomes_of_asks h)
  rw [hknown, (asks_of_get?_withOutcomes hknown).unique unshared h]

theorem isSome_get?_withOutcomes_iff {ns key : String} :
    ((Merge.withOutcomes (ofFiles scope rules (keyOf? outcomes index) tree files).used
        outcomes).get? ns key).isSome
      ↔ ∃ phrase, Asks scope rules tree files outcomes index ns key phrase := by
  constructor
  · intro h
    obtain ⟨phrase, hphrase⟩ := Option.isSome_iff_exists.1 h
    exact ⟨phrase, asks_of_get?_withOutcomes hphrase⟩
  · rintro ⟨phrase, h⟩
    exact isSome_get?_withOutcomes_of_asks h

end Asked

end Survey

namespace Merge

section Merged

variable {scope : SourceScope} {rules : MarkerRules} {tree : FileTree} {files : List String}
  {rule : Merge} {outcomes : List Outcome} {index : PhraseIndex} {source target : Catalog}
  {ns key phrase : String}

/-- The merge of two catalogs with outcomes and the keys in use. -/
def afterSurvey (rule : Merge) (scope : SourceScope) (rules : MarkerRules) (tree : FileTree)
    (files : List String) (outcomes : List Outcome) (index : PhraseIndex)
    (source target : Catalog) : Merged :=
  rule.run outcomes (Survey.ofFiles scope rules (Survey.keyOf? outcomes index) tree files).used
    source target

/-- A key is kept: it is asked for a phrase, or nothing is removed and it was there. -/
def Keeps (rule : Merge) (scope : SourceScope) (rules : MarkerRules) (tree : FileTree)
    (files : List String) (outcomes : List Outcome) (index : PhraseIndex)
    (source target : Catalog) (ns key : String) : Prop :=
  (∃ phrase, Survey.Asks scope rules tree files outcomes index ns key phrase)
    ∨ rule.prune = false ∧ ((source.get? ns key).isSome ∨ (target.get? ns key).isSome)

theorem keeps_iff :
    rule.keeps (withOutcomes (Survey.ofFiles scope rules (Survey.keyOf? outcomes index) tree
        files).used outcomes) source target ns key = true
      ↔ rule.Keeps scope rules tree files outcomes index source target ns key := by
  unfold keeps Keeps
  rw [Bool.or_eq_true, Survey.isSome_get?_withOutcomes_iff, Bool.and_eq_true, Bool.or_eq_true,
    Bool.not_eq_true']

/-- **The phrases of the merged source catalog**: a kept key has the phrase that it had, or the one
that it is asked for if it had none. -/
theorem get?_source_afterSurvey_iff (hlanguage : rule.keyLanguage = .target)
    (unshared : Outcome.Unshared index outcomes) (hphrase : phrase ≠ rule.untranslated) :
    (rule.afterSurvey scope rules tree files outcomes index source target).source.get? ns key
        = some phrase
      ↔ rule.Keeps scope rules tree files outcomes index source target ns key
        ∧ (source.get? ns key = some phrase
          ∨ (∀ value, source.get? ns key = some value → value = rule.untranslated)
            ∧ Survey.Asks scope rules tree files outcomes index ns key phrase) := by
  unfold afterSurvey
  rw [get?_source_run, ← keeps_iff, ← Survey.get?_withOutcomes_iff unshared]
  split
  · next hkeeps =>
    unfold sourceValue?
    rw [hlanguage, if_neg nofun, Option.or_none]
    rw [Option.some.injEq, settled_eq_iff hphrase]
    simp only [hkeeps, true_and]
  · next hkeeps => simp [hkeeps]

/-- Both merged catalogs have the same keys. -/
theorem isSome_get?_afterSurvey (rule : Merge) (outcomes : List Outcome) (index : PhraseIndex)
    (source target : Catalog) (ns key : String) :
    ((rule.afterSurvey scope rules tree files outcomes index source target).target.get? ns
        key).isSome
      = ((rule.afterSurvey scope rules tree files outcomes index source target).source.get? ns
        key).isSome := by
  unfold afterSurvey
  rw [get?_source_run, get?_target_run]
  split <;> rfl

/-! ## Keys before and after -/

/-- **A phrase without an outcome keeps its key**, if the key is kept. -/
theorem lookup?_afterSurvey_of_lookup? (hlanguage : rule.keyLanguage = .target)
    (hindex : index = PhraseIndex.ofCatalog source .target rule.untranslated)
    (unshared : Outcome.Unshared index outcomes)
    (hnone : ∀ outcome ∈ outcomes, ¬(outcome.ns = ns ∧ outcome.phrase = phrase))
    (hlookup : index.lookup? ns phrase = some key)
    (hkeeps : rule.Keeps scope rules tree files outcomes index source target ns key) :
    (PhraseIndex.ofCatalog (rule.afterSurvey scope rules tree files outcomes index source
      target).source .target rule.untranslated).lookup? ns phrase = some key := by
  have hbefore := PhraseIndex.lookup?_eq_some_iff.1 hlookup
  simp only [hindex, PhraseIndex.phraseForKey?_ofCatalog_target] at hbefore
  obtain ⟨⟨hsource, hphrase⟩, hleast⟩ := hbefore
  rw [PhraseIndex.lookup?_eq_some_iff]
  simp only [PhraseIndex.phraseForKey?_ofCatalog_target,
    get?_source_afterSurvey_iff hlanguage unshared hphrase]
  refine ⟨⟨⟨hkeeps, .inl hsource⟩, hphrase⟩, ?_⟩
  rintro other ⟨⟨-, hother | ⟨-, hasks⟩⟩, -⟩
  · exact hleast other ⟨hother, hphrase⟩
  · -- Only the marker calls of the phrase can ask for it, and they ask for its old key.
    rcases hasks with ⟨outcome, hmem, hns, -, hsame⟩ | ⟨-, hkey⟩
    · exact absurd ⟨hns, hsame⟩ (hnone outcome hmem)
    · rw [Survey.keyOf?_of_forall_ne hnone, hlookup] at hkey
      obtain rfl := Option.some.inj hkey
      exact String.le_refl key

/-- **A phrase without a key and without an outcome gets none.** -/
theorem lookup?_afterSurvey_eq_none (hlanguage : rule.keyLanguage = .target)
    (hindex : index = PhraseIndex.ofCatalog source .target rule.untranslated)
    (unshared : Outcome.Unshared index outcomes)
    (hnone : ∀ outcome ∈ outcomes, ¬(outcome.ns = ns ∧ outcome.phrase = phrase))
    (hlookup : index.lookup? ns phrase = none) :
    (PhraseIndex.ofCatalog (rule.afterSurvey scope rules tree files outcomes index source
      target).source .target rule.untranslated).lookup? ns phrase = none := by
  have hbefore := PhraseIndex.lookup?_eq_none_iff.1 hlookup
  rw [PhraseIndex.lookup?_eq_none_iff]
  intro key hcarried
  obtain ⟨hsource, hphrase⟩ := PhraseIndex.phraseForKey?_ofCatalog_target.1 hcarried
  rcases ((get?_source_afterSurvey_iff hlanguage unshared hphrase).1 hsource).2 with hold | ⟨-, hasks⟩
  · refine hbefore key ?_
    rw [hindex]
    exact PhraseIndex.phraseForKey?_ofCatalog_target.2 ⟨hold, hphrase⟩
  · rcases hasks with ⟨outcome, hmem, hns, -, hsame⟩ | ⟨-, hkey⟩
    · exact hnone outcome hmem ⟨hns, hsame⟩
    · rw [Survey.keyOf?_of_forall_ne hnone, hlookup] at hkey
      cases hkey

/-- The key of an outcome carries its phrase afterwards. -/
theorem get?_source_afterSurvey_of_mem (hlanguage : rule.keyLanguage = .target)
    (hindex : index = PhraseIndex.ofCatalog source .target rule.untranslated)
    (unshared : Outcome.Unshared index outcomes) {outcome : Outcome} (hmem : outcome ∈ outcomes)
    (hphrase : outcome.phrase ≠ rule.untranslated) :
    (rule.afterSurvey scope rules tree files outcomes index source target).source.get? outcome.ns
      outcome.key = some outcome.phrase := by
  have hasks : Survey.Asks scope rules tree files outcomes index outcome.ns outcome.key
      outcome.phrase := .inl ⟨outcome, hmem, rfl, rfl, rfl⟩
  rw [get?_source_afterSurvey_iff hlanguage unshared hphrase]
  refine ⟨.inl ⟨outcome.phrase, hasks⟩, ?_⟩
  by_cases hold : ∀ value, source.get? outcome.ns outcome.key = some value →
      value = rule.untranslated
  · exact .inr ⟨hold, hasks⟩
  · obtain ⟨value, hvalue, hne⟩ : ∃ value, source.get? outcome.ns outcome.key = some value
        ∧ value ≠ rule.untranslated := by simpa using hold
    -- The index gives the key to its old value, which outcomes do not share.
    have hcarried : index.phraseForKey? outcome.ns outcome.key = some value := by
      rw [hindex]
      exact PhraseIndex.phraseForKey?_ofCatalog_target.2 ⟨hvalue, hne⟩
    rw [← unshared.index outcome hmem value hcarried]
    exact .inl hvalue

/-- **The phrase of an outcome has a key afterwards.** -/
theorem exists_lookup?_afterSurvey (hlanguage : rule.keyLanguage = .target)
    (hindex : index = PhraseIndex.ofCatalog source .target rule.untranslated)
    (unshared : Outcome.Unshared index outcomes) {outcome : Outcome} (hmem : outcome ∈ outcomes)
    (hphrase : outcome.phrase ≠ rule.untranslated) :
    ∃ key, (PhraseIndex.ofCatalog (rule.afterSurvey scope rules tree files outcomes index source
      target).source .target rule.untranslated).lookup? outcome.ns outcome.phrase = some key :=
  PhraseIndex.exists_lookup? (PhraseIndex.phraseForKey?_ofCatalog_target.2
    ⟨get?_source_afterSurvey_of_mem hlanguage hindex unshared hmem hphrase, hphrase⟩)

/-- **A phrase that had no key gets the one of its outcome.** -/
theorem lookup?_afterSurvey_of_mem (hlanguage : rule.keyLanguage = .target)
    (hindex : index = PhraseIndex.ofCatalog source .target rule.untranslated)
    (unshared : Outcome.Unshared index outcomes) {outcome : Outcome} (hmem : outcome ∈ outcomes)
    (hphrase : outcome.phrase ≠ rule.untranslated)
    (honly : ∀ other ∈ outcomes, other.ns = outcome.ns → other.phrase = outcome.phrase →
      other.key = outcome.key)
    (hlookup : index.lookup? outcome.ns outcome.phrase = none) :
    (PhraseIndex.ofCatalog (rule.afterSurvey scope rules tree files outcomes index source
      target).source .target rule.untranslated).lookup? outcome.ns outcome.phrase
      = some outcome.key := by
  have hbefore := PhraseIndex.lookup?_eq_none_iff.1 hlookup
  rw [PhraseIndex.lookup?_eq_some_iff]
  simp only [PhraseIndex.phraseForKey?_ofCatalog_target]
  refine ⟨⟨get?_source_afterSurvey_of_mem hlanguage hindex unshared hmem hphrase, hphrase⟩, ?_⟩
  rintro key ⟨hsource, -⟩
  have hkey : key = outcome.key := by
    rcases ((get?_source_afterSurvey_iff hlanguage unshared hphrase).1 hsource).2 with
      hold | ⟨-, ⟨other, hother, hns, rfl, hsame⟩ | ⟨-, hasked⟩⟩
    · refine absurd ?_ (hbefore key)
      rw [hindex]
      exact PhraseIndex.phraseForKey?_ofCatalog_target.2 ⟨hold, hphrase⟩
    · exact honly other hother hns hsame
    · rcases Survey.keyOf?_eq_some hasked with ⟨other, hother, hns, hsame, rfl⟩ | ⟨hnone, -⟩
      · exact honly other hother hns hsame
      · exact absurd ⟨rfl, rfl⟩ (hnone outcome hmem)
  subst hkey
  exact String.le_refl _

/-- **The target value of an outcome's key** is the one that was there, unless that was the
untranslated mark, or else the translation. -/
theorem get?_target_afterSurvey_of_mem (unshared : Outcome.Unshared index outcomes)
    {outcome : Outcome} (hmem : outcome ∈ outcomes)
    (honly : ∀ other ∈ outcomes, other.ns = outcome.ns → other.phrase = outcome.phrase →
      other = outcome) :
    (rule.afterSurvey scope rules tree files outcomes index source target).target.get? outcome.ns
        outcome.key
      = some (((target.get? outcome.ns outcome.key).filter (· != rule.untranslated)).getD
        outcome.value) := by
  have hkeeps : rule.Keeps scope rules tree files outcomes index source target outcome.ns
      outcome.key := .inl ⟨outcome.phrase, .inl ⟨outcome, hmem, rfl, rfl, rfl⟩⟩
  -- The first outcome with the key has the phrase too, so it is this one.
  have hfind : (outcomes.find? fun other => other.ns == outcome.ns && other.key == outcome.key)
      = some outcome := by
    obtain ⟨other, hfound⟩ := Option.isSome_iff_exists.1
      (isSome_find?_both_iff.2 ⟨outcome, hmem, rfl, rfl⟩)
    obtain ⟨hother, hns, hkey⟩ := mem_of_find?_both hfound
    rw [hfound, honly other hother hns (unshared.outcomes other hother outcome hmem hns hkey)]
  unfold afterSurvey
  rw [get?_target_run, if_pos (keeps_iff.2 hkeeps)]
  unfold settled targetValue?
  rw [hfind, Option.map_some, Option.some_or]
  cases (target.get? outcome.ns outcome.key).filter (· != rule.untranslated) <;> rfl

end Merged

end Merge

end Phrasebook
