import Phrasebook.Proofs.PhraseIndex

/-!
# Carried phrases

An index is known by one relation: which key of a namespace carries which phrase. Every answer of
the index is exact for it. A phrase that two keys carry is listed once, where the second of its keys
stands, with all of its keys in order; a phrase counts once for each namespace.

Results:
* `PhraseIndex.mem_ambiguities`: the listed phrases are those with two keys, each with all its keys.
* `PhraseIndex.ambiguities_sorted`: they are listed by namespace and second key.
* `PhraseIndex.size_eq_length_listedPhrases`: the size of an index is the number of its phrases.
* `PhraseIndex.exact`: every index answers exactly for what its keys carry.
* `PhraseIndex.exact_ofCatalog`: the keys of the index of a catalog carry what the catalog says.
-/

namespace Phrasebook.PhraseIndex

variable {index : PhraseIndex} {ns phrase : String}

/-! ## Phrases with two keys -/

theorem nodup_keysOf (index : PhraseIndex) (ns phrase : String) :
    (index.keysOf ns phrase).Nodup := by
  refine (index.keysOf_sorted ns phrase).imp ?_
  rintro key _ hlt rfl
  exact String.lt_irrefl key hlt

/-- A phrase has a second key if and only if two keys carry it. -/
theorem exists_second_iff :
    (∃ second, (index.keysOf ns phrase)[1]? = some second)
      ↔ ∃ first second, first ≠ second ∧ index.phraseForKey? ns first = some phrase
        ∧ index.phraseForKey? ns second = some phrase := by
  have hnodup := index.nodup_keysOf ns phrase
  simp only [← mem_keysOf]
  generalize index.keysOf ns phrase = keys at hnodup
  constructor
  · rintro ⟨second, hsecond⟩
    match keys, hsecond with
    | first :: second :: rest, rfl =>
      exact ⟨first, second, fun heq => by simp [heq] at hnodup, by simp, by simp⟩
  · rintro ⟨first, second, hne, hfirst, hsecond⟩
    match keys, hfirst, hsecond with
    | [only], hfirst, hsecond =>
      exact absurd ((List.mem_singleton.1 hfirst).trans (List.mem_singleton.1 hsecond).symm) hne
    | _ :: second :: _, _, _ => exact ⟨second, rfl⟩

/-! ## Ambiguities -/

/-- **The listed phrases** are those with a second key, each with all of its keys. -/
theorem mem_ambiguities {entry : Ambiguity} :
    entry ∈ index.ambiguities
      ↔ entry.keys = index.keysOf entry.ns entry.phrase
        ∧ ∃ second, entry.keys[1]? = some second :=
  index.coherent.mem_ambiguities entry

/-- **Ambiguities are listed by namespace and second key.** -/
theorem ambiguities_sorted (index : PhraseIndex) :
    index.ambiguities.Pairwise Ambiguity.Precedes :=
  index.coherent.sorted

/-- Each phrase of a namespace is listed once. -/
theorem nodup_ambiguities (index : PhraseIndex) :
    (index.ambiguities.map fun entry => (entry.ns, entry.phrase)).Nodup :=
  List.pairwise_map.2 (index.coherent.pairwise_ne.imp fun hne heq => hne (Prod.mk.inj heq))

/-! ## Counting phrases -/

/-- The phrases of all namespaces. -/
def listedPhrases (index : PhraseIndex) : List (String × String) :=
  index.phrases.toList.map fun entry => (entry.1, entry.2.1)

/-- **The size of an index is the number of its phrases.** -/
theorem size_eq_length_listedPhrases (index : PhraseIndex) :
    index.size = index.listedPhrases.length := by
  unfold size listedPhrases
  rw [List.length_map, Catalog.keyCount_eq_length]

theorem mem_listedPhrases :
    (ns, phrase) ∈ index.listedPhrases ↔ ∃ key, index.phraseForKey? ns key = some phrase := by
  unfold listedPhrases
  rw [List.mem_map]
  constructor
  · rintro ⟨⟨ns, phrase, key⟩, hmem, heq⟩
    cases heq
    exact ⟨key, phraseForKey?_of_lookup? (Catalog.mem_toList.1 hmem)⟩
  · rintro ⟨key, hkey⟩
    obtain ⟨first, hfirst⟩ := exists_lookup? hkey
    exact ⟨(ns, phrase, first), Catalog.mem_toList.2 hfirst, rfl⟩

theorem nodup_listedPhrases (index : PhraseIndex) : index.listedPhrases.Nodup :=
  index.phrases.nodup_pairs

/-! ## Exactness -/

/-- Every answer of an index is exact for which key of which namespace carries which phrase. -/
structure Exact (index : PhraseIndex) (Carries : String → String → String → Prop) : Prop where
  /-- The looked up key is the least one that carries the phrase. -/
  lookup?_eq_some_iff : ∀ ns phrase key, index.lookup? ns phrase = some key
    ↔ Carries ns key phrase ∧ ∀ other, Carries ns other phrase → key ≤ other
  lookup?_eq_none_iff : ∀ ns phrase,
    index.lookup? ns phrase = none ↔ ∀ key, ¬Carries ns key phrase
  phraseForKey?_eq_some_iff : ∀ ns key phrase,
    index.phraseForKey? ns key = some phrase ↔ Carries ns key phrase
  /-- A phrase is listed if and only if two keys carry it. -/
  exists_ambiguity_iff : ∀ ns phrase,
    (∃ entry ∈ index.ambiguities, entry.ns = ns ∧ entry.phrase = phrase)
      ↔ ∃ first second, first ≠ second ∧ Carries ns first phrase ∧ Carries ns second phrase
  nodup : (index.ambiguities.map fun entry => (entry.ns, entry.phrase)).Nodup
  /-- It is listed with all keys that carry it, in order and each once. -/
  keys_sorted : ∀ entry ∈ index.ambiguities, entry.keys.Pairwise (· < ·)
  mem_keys_iff : ∀ entry ∈ index.ambiguities, ∀ key,
    key ∈ entry.keys ↔ Carries entry.ns key entry.phrase
  head?_keys : ∀ entry ∈ index.ambiguities,
    entry.keys.head? = index.lookup? entry.ns entry.phrase
  sorted : index.ambiguities.Pairwise Ambiguity.Precedes
  /-- The size is the number of phrases that some key carries. -/
  size_eq : ∃ phrases : List (String × String), phrases.Nodup
    ∧ (∀ ns phrase, (ns, phrase) ∈ phrases ↔ ∃ key, Carries ns key phrase)
    ∧ index.size = phrases.length

/-- **Every index is exact** for the phrases of its keys. -/
theorem exact (index : PhraseIndex) :
    index.Exact fun ns key phrase => index.phraseForKey? ns key = some phrase where
  lookup?_eq_some_iff _ _ _ := lookup?_eq_some_iff
  lookup?_eq_none_iff _ _ := lookup?_eq_none_iff
  phraseForKey?_eq_some_iff _ _ _ := Iff.rfl
  exists_ambiguity_iff ns phrase := by
    rw [← exists_second_iff]
    constructor
    · rintro ⟨entry, hmem, rfl, rfl⟩
      obtain ⟨hkeys, hsecond⟩ := mem_ambiguities.1 hmem
      rwa [← hkeys]
    · intro hsecond
      exact ⟨⟨ns, phrase, index.keysOf ns phrase⟩, mem_ambiguities.2 ⟨rfl, hsecond⟩, rfl, rfl⟩
  nodup := index.nodup_ambiguities
  keys_sorted entry hmem := by
    rw [(mem_ambiguities.1 hmem).1]
    exact index.keysOf_sorted entry.ns entry.phrase
  mem_keys_iff entry hmem key := by
    rw [(mem_ambiguities.1 hmem).1]
    exact mem_keysOf
  head?_keys entry hmem := by
    rw [(mem_ambiguities.1 hmem).1, lookup?_eq_head?]
  sorted := index.ambiguities_sorted
  size_eq := ⟨index.listedPhrases, index.nodup_listedPhrases, fun _ _ => mem_listedPhrases,
    index.size_eq_length_listedPhrases⟩

/-- A key of a catalog carries a phrase: it has a value other than the untranslated mark, and the
phrase is that value or, if the keys are phrases, the text of the key. -/
def Carries (catalog : Catalog) (language : KeyLanguage) (untranslated ns key phrase : String) :
    Prop :=
  ∃ value, catalog.get? ns key = some value ∧ value ≠ untranslated
    ∧ match language with
      | .target => phrase = value
      | .source => phrase = Key.unescape key

theorem phraseForKey?_ofCatalog_iff_carries {catalog : Catalog} {language : KeyLanguage}
    {untranslated ns key phrase : String} :
    (ofCatalog catalog language untranslated).phraseForKey? ns key = some phrase
      ↔ Carries catalog language untranslated ns key phrase := by
  rw [phraseForKey?_ofCatalog_eq_some_iff]
  unfold Carries
  cases language <;> simp only [PhraseTables.phraseOf, and_assoc, eq_comm]

/-- **The index of a catalog is exact** for what the keys of the catalog carry. -/
theorem exact_ofCatalog (catalog : Catalog) (language : KeyLanguage) (untranslated : String) :
    (ofCatalog catalog language untranslated).Exact (Carries catalog language untranslated) := by
  have hsame : (fun ns key phrase =>
      (ofCatalog catalog language untranslated).phraseForKey? ns key = some phrase)
        = Carries catalog language untranslated := by
    funext ns key phrase
    exact propext phraseForKey?_ofCatalog_iff_carries
  exact hsame ▸ exact (ofCatalog catalog language untranslated)

-- Three keys with one value: the first stands for it, and the list is sorted.
example :
    let index := ofCatalog (Catalog.empty.insert "default" "ok" "好" |>.insert "default" "good" "好"
      |>.insert "default" "fine" "好") .target "__NOT_TRANSLATED__"
    index.lookup? "default" "好" = some "fine" ∧ index.size = 1
      ∧ index.ambiguities = [⟨"default", "好", ["fine", "good", "ok"]⟩] := by
  decide +kernel

end Phrasebook.PhraseIndex
