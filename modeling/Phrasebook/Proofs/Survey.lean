import Phrasebook.Survey
import Phrasebook.Proofs.Outcome

/-!
# What a survey finds

A survey goes through files and notes keys. Seen from outside, it answers two questions: which
phrases of which namespaces the marker calls ask for (`Survey.Finds`), and which keys these phrases
have. The used keys are the keys of the found phrases.

Results:
* `Survey.get?_used_of_finds`, `Survey.finds_of_get?_used`: the used keys are exactly the keys of
  the found phrases.
* `Survey.isComplete_ofFiles`: a survey is complete exactly if every file can be searched.
* `Survey.keyOf?_injective`: with outcomes that share no key, no two phrases of a namespace have
  one key, so that what the survey notes does not depend on the order of files and calls.
-/

namespace Phrasebook.Survey

/-! ## The keys of phrases -/

/-- A phrase has its key from an outcome or, without one, from the index. -/
theorem keyOf?_eq_some {outcomes : List Outcome} {index : PhraseIndex} {ns phrase key : String}
    (h : keyOf? outcomes index ns phrase = some key) :
    (∃ outcome ∈ outcomes, outcome.ns = ns ∧ outcome.phrase = phrase ∧ outcome.key = key)
      ∨ ((∀ outcome ∈ outcomes, ¬(outcome.ns = ns ∧ outcome.phrase = phrase))
          ∧ index.lookup? ns phrase = some key) := by
  rcases Option.or_eq_some_iff.1 h with houtcome | ⟨hnone, hindex⟩
  · obtain ⟨outcome, hfind, hkey⟩ := Option.map_eq_some_iff.1 houtcome
    obtain ⟨hmem, hns, hphrase⟩ := mem_of_find?_both hfind
    exact .inl ⟨outcome, hmem, hns, hphrase, hkey⟩
  · exact .inr ⟨find?_both_eq_none_iff.1 (Option.map_eq_none_iff.1 hnone), hindex⟩

/-- Without an outcome, the index decides. -/
theorem keyOf?_of_forall_ne {outcomes : List Outcome} {ns phrase : String}
    (h : ∀ outcome ∈ outcomes, ¬(outcome.ns = ns ∧ outcome.phrase = phrase))
    (index : PhraseIndex) : keyOf? outcomes index ns phrase = index.lookup? ns phrase := by
  unfold keyOf?
  rw [find?_both_eq_none_iff.2 h]
  rfl

/-- A phrase with the key of an outcome is the phrase of the outcome. -/
theorem eq_phrase_of_keyOf? {outcomes : List Outcome} {index : PhraseIndex}
    (unshared : Outcome.Unshared index outcomes) {outcome : Outcome} (hmem : outcome ∈ outcomes)
    {phrase : String} (h : keyOf? outcomes index outcome.ns phrase = some outcome.key) :
    phrase = outcome.phrase := by
  rcases keyOf?_eq_some h with ⟨same, hmem', hns, rfl, hkey⟩ | ⟨-, hlookup⟩
  · exact unshared.outcomes same hmem' outcome hmem hns hkey
  · exact unshared.index outcome hmem phrase (PhraseIndex.phraseForKey?_of_lookup? hlookup)

/-- **No two phrases of a namespace have one key.** -/
theorem keyOf?_injective {outcomes : List Outcome} {index : PhraseIndex}
    (unshared : Outcome.Unshared index outcomes) {ns first second key : String}
    (hfirst : keyOf? outcomes index ns first = some key)
    (hsecond : keyOf? outcomes index ns second = some key) : first = second := by
  rcases keyOf?_eq_some hfirst with ⟨one, hmem, rfl, rfl, rfl⟩ | ⟨-, hone⟩
  · exact (eq_phrase_of_keyOf? unshared hmem hsecond).symm
  · rcases keyOf?_eq_some hsecond with ⟨two, hmem, rfl, rfl, rfl⟩ | ⟨-, htwo⟩
    · exact eq_phrase_of_keyOf? unshared hmem hfirst
    · have h := PhraseIndex.phraseForKey?_of_lookup? hone
      rw [PhraseIndex.phraseForKey?_of_lookup? htwo] at h
      exact (Option.some.inj h).symm

/-! ## Found phrases -/

section Files

variable (scope : SourceScope) (rules : MarkerRules) (tree : FileTree)

/-- The marker calls of a file. -/
def callsOf (file : String) : Except Problem (List MarkerCall) := do
  let unit ← ((scope.readUnit file).runOn tree).1
  rules.find unit

/-- A marker call in one of the files asks for a phrase of a namespace, which is a known one. Files
below vendor directories do not count, nor do files that cannot be searched. -/
def Finds (files : List String) (ns phrase : String) : Prop :=
  ns ∈ rules.namespaces ∧ ∃ file ∈ files, rules.isVendored file = false ∧
    ∃ calls, callsOf scope rules tree file = .ok calls ∧
      ∃ call ∈ calls, call.namespaceName = ns ∧ call.phrase = phrase

/-- The marker calls of a file, none if it cannot be searched. -/
def foundIn (file : String) : List MarkerCall := (callsOf scope rules tree file).toOption.getD []

theorem finds_iff {files : List String} {ns phrase : String} :
    Finds scope rules tree files ns phrase
      ↔ ns ∈ rules.namespaces ∧ ∃ file ∈ files, rules.isVendored file = false
        ∧ ∃ call ∈ foundIn scope rules tree file, call.namespaceName = ns ∧ call.phrase = phrase := by
  unfold Finds foundIn
  refine and_congr_right fun _ => exists_congr fun file => and_congr_right fun _ =>
    and_congr_right fun _ => ?_
  cases callsOf scope rules tree file <;> simp [Except.toOption]

instance (files : List String) (ns phrase : String) :
    Decidable (Finds scope rules tree files ns phrase) := decidable_of_iff _ (finds_iff scope rules tree).symm

variable (key? : String → String → Option String)

theorem usesOf_eq (file : String) :
    usesOf scope rules key? tree file
      = (callsOf scope rules tree file).map fun calls => calls.filterMap (use? rules key?) := by
  unfold usesOf callsOf
  cases ((scope.readUnit file).runOn tree).1 <;> rfl

/-- The uses in a file are those of its marker calls. -/
theorem getD_usesOf (file : String) :
    (usesOf scope rules key? tree file).toOption.getD []
      = (foundIn scope rules tree file).filterMap (use? rules key?) := by
  unfold foundIn
  rw [usesOf_eq]
  cases callsOf scope rules tree file <;> rfl

theorem use?_eq_some_iff {rules : MarkerRules} {call : MarkerCall} {use : Use} :
    use? rules key? call = some use
      ↔ use.ns ∈ rules.namespaces ∧ call.namespaceName = use.ns ∧ call.phrase = use.phrase
        ∧ key? use.ns use.phrase = some use.key := by
  unfold use?
  rw [Option.ite_none_right_eq_some, List.contains_iff_mem, Option.map_eq_some_iff]
  constructor
  · rintro ⟨hknown, key, hkey, rfl⟩
    exact ⟨hknown, rfl, rfl, hkey⟩
  · rintro ⟨hknown, hns, hphrase, hkey⟩
    rw [hns, hphrase]
    exact ⟨hknown, use.key, hkey, rfl⟩

/-- All uses of keys in some files. -/
def usesIn (files : List String) : List Use :=
  (files.filter (!rules.isVendored ·)).flatMap fun file =>
    (usesOf scope rules key? tree file).toOption.getD []

theorem mem_usesIn {files : List String} {use : Use} :
    use ∈ usesIn scope rules tree key? files
      ↔ Finds scope rules tree files use.ns use.phrase ∧ key? use.ns use.phrase = some use.key := by
  unfold usesIn
  rw [finds_iff]
  simp only [List.mem_flatMap, List.mem_filter, getD_usesOf, List.mem_filterMap,
    use?_eq_some_iff, Bool.not_eq_true']
  constructor
  · rintro ⟨file, ⟨hfile, hvendored⟩, call, hcall, hknown, hns, hphrase, hkey⟩
    exact ⟨⟨hknown, file, hfile, hvendored, call, hcall, hns, hphrase⟩, hkey⟩
  · rintro ⟨⟨hknown, file, hfile, hvendored, call, hcall, hns, hphrase⟩, hkey⟩
    exact ⟨file, ⟨hfile, hvendored⟩, call, hcall, hknown, hns, hphrase, hkey⟩

/-- The used keys of a survey are those of all uses, of which the last one of a key gives it its
phrase. -/
theorem used_ofFiles (files : List String) :
    (ofFiles scope rules key? tree files).used
      = (usesIn scope rules tree key? files).foldl
          (fun used use => used.insert use.ns use.key use.phrase) Catalog.empty := by
  have hfold : ∀ (rest : List String) (survey : Survey),
      (rest.foldl (fun survey file => survey.note file (usesOf scope rules key? tree file))
          survey).used
        = (rest.flatMap fun file => (usesOf scope rules key? tree file).toOption.getD []).foldl
            (fun used use => used.insert use.ns use.key use.phrase) survey.used := by
    intro rest
    induction rest with
    | nil => intro survey; rfl
    | cons file rest ih =>
      intro survey
      rw [List.foldl_cons, ih, List.flatMap_cons, List.foldl_append]
      cases usesOf scope rules key? tree file <;> rfl
  exact hfold _ _

/-- **Every used key is the key of a found phrase.** -/
theorem finds_of_get?_used {files : List String} {ns key phrase : String}
    (h : (ofFiles scope rules key? tree files).used.get? ns key = some phrase) :
    Finds scope rules tree files ns phrase ∧ key? ns phrase = some key := by
  rw [used_ofFiles, Catalog.get?_foldl_insert Use.ns Use.key Use.phrase, Catalog.get?_empty,
    Option.or_none] at h
  obtain ⟨use, hfind, rfl⟩ := Option.map_eq_some_iff.1 h
  obtain ⟨hmem, rfl, rfl⟩ := mem_of_find?_both hfind
  exact (mem_usesIn scope rules tree key?).1 (List.mem_reverse.1 hmem)

/-- **The key of a found phrase is used.** -/
theorem get?_used_of_finds {files : List String} {ns key phrase : String}
    (h : Finds scope rules tree files ns phrase) (hkey : key? ns phrase = some key) :
    ((ofFiles scope rules key? tree files).used.get? ns key).isSome := by
  rw [used_ofFiles, Catalog.get?_foldl_insert Use.ns Use.key Use.phrase, Catalog.get?_empty,
    Option.or_none, Option.isSome_map, isSome_find?_both_iff]
  refine ⟨⟨ns, key, phrase⟩, List.mem_reverse.2 ?_, rfl, rfl⟩
  exact (mem_usesIn scope rules tree key?).2 ⟨h, hkey⟩

/-- Every file that a survey goes through can be searched. -/
def Searchable (files : List String) : Prop :=
  ∀ file ∈ files, rules.isVendored file = false →
    ∃ calls, callsOf scope rules tree file = .ok calls

instance (files : List String) : Decidable (Searchable scope rules tree files) :=
  decidable_of_iff
    (∀ file ∈ files, rules.isVendored file = false →
      (callsOf scope rules tree file).toOption.isSome = true)
    (by
      refine forall_congr' fun file => imp_congr_right fun _ => imp_congr_right fun _ => ?_
      cases callsOf scope rules tree file <;> simp [Except.toOption])

/-- **A survey is complete** exactly if every file can be searched, whatever the keys are. -/
theorem isComplete_ofFiles (files : List String) :
    (ofFiles scope rules key? tree files).isComplete = true
      ↔ Searchable scope rules tree files := by
  have hfold : ∀ (rest : List String) (survey : Survey),
      (rest.foldl (fun survey file => survey.note file (usesOf scope rules key? tree file))
          survey).isComplete = true
        ↔ survey.isComplete = true
          ∧ ∀ file ∈ rest, ∃ calls, callsOf scope rules tree file = .ok calls := by
    intro rest
    induction rest with
    | nil => simp
    | cons file rest ih =>
      intro survey
      rw [List.foldl_cons, ih, List.forall_mem_cons, ← and_assoc]
      refine and_congr_left fun _ => ?_
      rw [usesOf_eq]
      cases callsOf scope rules tree file <;> simp [note, isComplete, Except.map]
  unfold ofFiles Searchable
  rw [hfold]
  simp [isComplete, and_imp]

end Files

end Phrasebook.Survey
