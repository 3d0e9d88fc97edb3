import Phrasebook.Proofs.PhraseTables

/-!
# What an index answers

`PhraseIndex.phraseForKey?` says which phrase a key carries, and `PhraseIndex.lookup?` goes the
other way: it gives the first key, in code point order, that carries a phrase. That the two agree is
what the pass over the catalog keeps (`PhraseTables.coherent_ofCatalog`).

Results:
* `PhraseIndex.lookup?_eq_some_iff`: the looked up key carries the phrase and is the least to do so.
* `PhraseIndex.lookup?_eq_none_iff`: a phrase without an answer is carried by no key.
* `PhraseIndex.phraseForKey?_ofCatalog`: in the index of a source catalog, a key carries a phrase
  exactly if it has a value other than the untranslated mark.
-/

namespace Phrasebook.PhraseIndex

/-! ## The first of sorted texts -/

/-- The head of sorted texts is the least of them. -/
theorem head?_eq_some_iff_least {texts : List String} (sorted : texts.Pairwise (· < ·))
    {text : String} :
    texts.head? = some text ↔ text ∈ texts ∧ ∀ other ∈ texts, text ≤ other := by
  cases texts with
  | nil => simp
  | cons first rest =>
    have hfirst := (List.pairwise_cons.1 sorted).1
    rw [List.head?_cons, Option.some.injEq]
    constructor
    · rintro rfl
      refine ⟨List.mem_cons_self, fun other hmem => ?_⟩
      rcases List.mem_cons.1 hmem with rfl | hmem
      · exact String.le_refl _
      · exact String.not_lt.1 (String.lt_asymm (hfirst other hmem))
    · rintro ⟨hmem, hleast⟩
      rcases List.mem_cons.1 hmem with rfl | hmem
      · rfl
      · exact String.le_antisymm (String.not_lt.1 (String.lt_asymm (hfirst text hmem)))
          (hleast first List.mem_cons_self)

/-! ## Looking up -/

theorem coherent (index : PhraseIndex) : index.toPhraseTables.Coherent := by
  obtain ⟨tables, language, untranslated, catalog, rfl⟩ := index
  exact PhraseTables.coherent_ofCatalog catalog

theorem mem_keysOf {index : PhraseIndex} {ns phrase key : String} :
    key ∈ index.keysOf ns phrase ↔ index.phraseForKey? ns key = some phrase :=
  PhraseTables.mem_keysOf

theorem lookup?_eq_head? (index : PhraseIndex) (ns phrase : String) :
    index.lookup? ns phrase = (index.keysOf ns phrase).head? :=
  index.coherent.get?_phrases ns phrase

/-- **The looked up key is the least one that carries the phrase.** -/
theorem lookup?_eq_some_iff {index : PhraseIndex} {ns phrase key : String} :
    index.lookup? ns phrase = some key
      ↔ index.phraseForKey? ns key = some phrase
        ∧ ∀ other, index.phraseForKey? ns other = some phrase → key ≤ other := by
  rw [lookup?_eq_head?, head?_eq_some_iff_least (index.keysOf_sorted ns phrase)]
  simp only [mem_keysOf]

theorem phraseForKey?_of_lookup? {index : PhraseIndex} {ns phrase key : String}
    (h : index.lookup? ns phrase = some key) : index.phraseForKey? ns key = some phrase :=
  (lookup?_eq_some_iff.1 h).1

/-- **A phrase without an answer is carried by no key.** -/
theorem lookup?_eq_none_iff {index : PhraseIndex} {ns phrase : String} :
    index.lookup? ns phrase = none ↔ ∀ key, index.phraseForKey? ns key ≠ some phrase := by
  rw [lookup?_eq_head?, List.head?_eq_none_iff, List.eq_nil_iff_forall_not_mem]
  simp only [mem_keysOf, ne_eq]

theorem exists_lookup? {index : PhraseIndex} {ns phrase key : String}
    (h : index.phraseForKey? ns key = some phrase) :
    ∃ first, index.lookup? ns phrase = some first := by
  cases hfirst : index.lookup? ns phrase with
  | some first => exact ⟨first, rfl⟩
  | none => exact absurd h (lookup?_eq_none_iff.1 hfirst key)

/-! ## The index of a catalog -/

/-- **A key carries the phrase of its value**, unless that is the untranslated mark. -/
theorem phraseForKey?_ofCatalog (catalog : Catalog) (language : KeyLanguage)
    (untranslated ns key : String) :
    (ofCatalog catalog language untranslated).phraseForKey? ns key
      = ((catalog.get? ns key).filter (· != untranslated)).map (PhraseTables.phraseOf language key) :=
  PhraseTables.get?_keys_ofCatalog catalog ns key

theorem phraseForKey?_ofCatalog_eq_some_iff {catalog : Catalog} {language : KeyLanguage}
    {untranslated ns key phrase : String} :
    (ofCatalog catalog language untranslated).phraseForKey? ns key = some phrase
      ↔ ∃ value, (catalog.get? ns key = some value ∧ value ≠ untranslated)
        ∧ PhraseTables.phraseOf language key value = phrase := by
  rw [phraseForKey?_ofCatalog, Option.map_eq_some_iff]
  simp only [Option.filter_eq_some_iff, bne_iff_ne]

/-- With keys that are translations, a key carries its value. -/
theorem phraseForKey?_ofCatalog_target {catalog : Catalog} {untranslated ns key phrase : String} :
    (ofCatalog catalog .target untranslated).phraseForKey? ns key = some phrase
      ↔ catalog.get? ns key = some phrase ∧ phrase ≠ untranslated := by
  rw [phraseForKey?_ofCatalog_eq_some_iff]
  constructor
  · rintro ⟨value, hvalue, rfl⟩
    exact hvalue
  · intro h
    exact ⟨phrase, h, rfl⟩

/-- With keys that are phrases, a key carries its text. -/
theorem phraseForKey?_ofCatalog_source {catalog : Catalog} {untranslated ns key phrase : String} :
    (ofCatalog catalog .source untranslated).phraseForKey? ns key = some phrase
      ↔ Key.unescape key = phrase
        ∧ ∃ value, catalog.get? ns key = some value ∧ value ≠ untranslated := by
  rw [phraseForKey?_ofCatalog_eq_some_iff]
  constructor
  · rintro ⟨value, hvalue, rfl⟩
    exact ⟨rfl, value, hvalue⟩
  · rintro ⟨rfl, value, hvalue⟩
    exact ⟨value, hvalue, rfl⟩

end Phrasebook.PhraseIndex
