import Mathlib.Data.List.Sort
import Phrasebook.PhraseIndex
import Phrasebook.Proofs.Catalog

/-!
# Building an index

The tables of an index are filled in one pass over a catalog, namespace by namespace and key by key.
What every step keeps is that the tables agree: the table of phrases and the list of ambiguities say
what can be read off the table of keys. This needs the order of the pass, in which every key comes
after those that the tables have.

Results:
* `PhraseTables.get?_keys_ofCatalog`: the keys of the tables are those of the catalog with a value
  other than the untranslated mark.
* `PhraseTables.Coherent.enter`: one more key keeps the tables in agreement.
* `PhraseTables.coherent_ofCatalog`: the tables of a catalog agree.
-/

namespace Phrasebook

/-- The order of ambiguities: by namespace, then by second key. -/
def Ambiguity.Precedes (first second : Ambiguity) : Prop :=
  first.ns < second.ns
    ∨ first.ns = second.ns
      ∧ ∃ key other, first.keys[1]? = some key ∧ second.keys[1]? = some other ∧ key < other

namespace PhraseTables

variable {tables : PhraseTables} {ns key phrase : String}

/-! ## The table of keys -/

/-- The phrase that a value gives to its key. -/
def carried (language : KeyLanguage) (untranslated key : String) (value? : Option String) :
    Option String :=
  (value?.filter (· != untranslated)).map (phraseOf language key)

theorem keys_enter (tables : PhraseTables) (ns key phrase : String) :
    (tables.enter ns key phrase).keys = tables.keys.insert ns key phrase := by
  unfold enter
  split <;> rfl

section Contents

variable {language : KeyLanguage} {untranslated : String}

theorem get?_keys_readKey (tables : PhraseTables) (ns : String) (entry : String × String)
    (other name : String) :
    (readKey language untranslated ns tables entry).keys.get? other name
      = if ns = other ∧ entry.1 = name
        then (carried language untranslated name (some entry.2)).or (tables.keys.get? other name)
        else tables.keys.get? other name := by
  unfold readKey carried
  by_cases hvalue : entry.2 = untranslated
  · simp [hvalue, Option.filter]
  · rw [if_neg (by simpa using hvalue), keys_enter, Catalog.get?_insert]
    split
    · next h => simp [hvalue, h.2, Option.filter]
    · rfl

theorem get?_keys_foldl_readKey {entries : List (String × String)}
    (sorted : entries.Pairwise (fun a b => a.1 < b.1)) (tables : PhraseTables)
    (ns other name : String) :
    (entries.foldl (readKey language untranslated ns) tables).keys.get? other name
      = if ns = other
        then (carried language untranslated name (findEntry name entries)).or
          (tables.keys.get? other name)
        else tables.keys.get? other name := by
  induction entries generalizing tables with
  | nil => simp [findEntry, carried]
  | cons entry rest ih =>
    obtain ⟨key, value⟩ := entry
    obtain ⟨hlt, hrest⟩ := List.pairwise_cons.1 sorted
    rw [List.foldl_cons, ih hrest, get?_keys_readKey]
    by_cases hns : ns = other
    · by_cases hkey : key = name
      · subst hkey
        rw [findEntry_eq_none_of_lt hlt]
        simp [hns, findEntry, carried]
      · simp [hns, hkey, findEntry]
    · simp [hns]

theorem get?_keys_readNamespace (tables : PhraseTables) (entry : String × Dictionary String)
    (other name : String) :
    (readNamespace language untranslated tables entry).keys.get? other name
      = if entry.1 = other
        then (carried language untranslated name (entry.2.get? name)).or
          (tables.keys.get? other name)
        else tables.keys.get? other name := by
  unfold readNamespace Dictionary.toList
  rw [get?_keys_foldl_readKey entry.2.sorted]
  simp only [touch, Catalog.get?_touch]
  rfl

theorem get?_keys_foldl_readNamespace {entries : List (String × Dictionary String)}
    (sorted : entries.Pairwise (fun a b => a.1 < b.1)) (tables : PhraseTables)
    (other name : String) :
    (entries.foldl (readNamespace language untranslated) tables).keys.get? other name
      = (carried language untranslated name ((findEntry other entries).bind (·.get? name))).or
        (tables.keys.get? other name) := by
  induction entries generalizing tables with
  | nil => simp [findEntry, carried]
  | cons entry rest ih =>
    obtain ⟨ns, keys⟩ := entry
    obtain ⟨hlt, hrest⟩ := List.pairwise_cons.1 sorted
    rw [List.foldl_cons, ih hrest, get?_keys_readNamespace]
    by_cases hns : ns = other
    · subst hns
      rw [findEntry_eq_none_of_lt hlt]
      simp [findEntry, carried]
    · simp [hns, findEntry]

/-- **The keys of the tables** are those of the catalog, unless their value is the untranslated
mark. -/
theorem get?_keys_ofCatalog (catalog : Catalog) (ns key : String) :
    (ofCatalog language untranslated catalog).keys.get? ns key
      = carried language untranslated key (catalog.get? ns key) := by
  unfold ofCatalog Dictionary.toList
  rw [get?_keys_foldl_readNamespace catalog.namespaces.sorted]
  exact Option.or_none

end Contents

/-! ## The keys of a phrase -/

/-- The keys that carry a phrase, in order. -/
def keysOf (tables : PhraseTables) (ns phrase : String) : List String :=
  (((tables.keys.namespaces.get? ns).getD Dictionary.empty).toList.filter fun entry =>
    entry.2 == phrase).map (·.1)

theorem mem_keysOf :
    key ∈ tables.keysOf ns phrase ↔ tables.keys.get? ns key = some phrase := by
  have hget : tables.keys.get? ns key
      = ((tables.keys.namespaces.get? ns).getD Dictionary.empty).get? key := by
    unfold Catalog.get?
    cases tables.keys.namespaces.get? ns <;> rfl
  rw [hget, ← Dictionary.mem_toList]
  unfold keysOf
  rw [List.mem_map]
  constructor
  · rintro ⟨⟨k, value⟩, hmem, rfl⟩
    obtain ⟨hmem, hvalue⟩ := List.mem_filter.1 hmem
    rw [← eq_of_beq hvalue]
    exact hmem
  · intro hmem
    exact ⟨(key, phrase), List.mem_filter.2 ⟨hmem, beq_self_eq_true phrase⟩, rfl⟩

theorem keysOf_sorted (tables : PhraseTables) (ns phrase : String) :
    (tables.keysOf ns phrase).Pairwise (· < ·) :=
  List.pairwise_map.2 (((tables.keys.namespaces.get? ns).getD Dictionary.empty).sorted.filter _)

/-- A key comes after all keys of the tables. -/
def Ahead (tables : PhraseTables) (ns key : String) : Prop :=
  ∀ other name phrase, tables.keys.get? other name = some phrase →
    other < ns ∨ other = ns ∧ name < key

/-- A key that comes after all others is the last one of its phrase. -/
theorem keysOf_enter (hahead : tables.Ahead ns key) (other text : String) :
    (tables.enter ns key phrase).keysOf other text
      = if ns = other ∧ phrase = text then tables.keysOf ns phrase ++ [key]
        else tables.keysOf other text := by
  have hlast : ∀ {text name}, name ∈ tables.keysOf ns text → name < key := fun hname =>
    (hahead ns _ _ (mem_keysOf.1 hname)).elim (absurd · (String.lt_irrefl ns)) (·.2)
  have hnew : ∀ text, key ∉ tables.keysOf ns text := fun text hmem =>
    String.lt_irrefl key (hlast hmem)
  refine List.Pairwise.eq_of_mem_iff (keysOf_sorted _ _ _) ?_ fun name => ?_
  · split
    · refine List.pairwise_append.2 ⟨keysOf_sorted _ _ _, List.pairwise_singleton _ _, ?_⟩
      intro name hname _ hkey
      exact List.mem_singleton.1 hkey ▸ hlast hname
    · exact keysOf_sorted _ _ _
  · rw [mem_keysOf, keys_enter, Catalog.get?_insert]
    by_cases hns : ns = other
    · subst hns
      by_cases hkey : key = name
      · subst hkey
        by_cases htext : phrase = text
        · simp [htext]
        · simp [htext, hnew]
      · by_cases htext : phrase = text
        · simp [htext, hkey, Ne.symm hkey, mem_keysOf]
        · simp [htext, hkey, mem_keysOf]
    · simp [hns, mem_keysOf]

/-! ## Agreement -/

/-- The tables agree: what they say of phrases is what the table of keys says. -/
structure Coherent (tables : PhraseTables) : Prop where
  /-- The first key of a phrase stands for it. -/
  get?_phrases : ∀ ns phrase,
    tables.phrases.get? ns phrase = (tables.keysOf ns phrase).head?
  /-- The listed phrases are those with a second key, each with all of its keys. -/
  mem_ambiguities : ∀ entry, entry ∈ tables.ambiguities
    ↔ entry.keys = tables.keysOf entry.ns entry.phrase ∧ ∃ second, entry.keys[1]? = some second
  sorted : tables.ambiguities.Pairwise Ambiguity.Precedes

/-- The entry for a phrase with its keys, if it is listed, has all of them. -/
theorem Coherent.eq_keysOf (h : tables.Coherent) {entry : Ambiguity}
    (hmem : entry ∈ tables.ambiguities) : entry.keys = tables.keysOf entry.ns entry.phrase :=
  ((h.mem_ambiguities entry).1 hmem).1

/-- Each phrase of a namespace is listed once: entries for one phrase have the same second key. -/
theorem Coherent.pairwise_ne (h : tables.Coherent) :
    tables.ambiguities.Pairwise fun first second =>
      ¬(first.ns = second.ns ∧ first.phrase = second.phrase) := by
  refine h.sorted.imp_of_mem ?_
  rintro first second hfirst hsecond hprecedes ⟨hns, hphrase⟩
  have hkeys : first.keys = second.keys := by
    rw [h.eq_keysOf hfirst, h.eq_keysOf hsecond, hns, hphrase]
  rcases hprecedes with hlt | ⟨-, key, other, hkey, hother, hlt⟩
  · exact String.lt_irrefl _ (hns ▸ hlt)
  · rw [hkeys, hother] at hkey
    cases hkey
    exact String.lt_irrefl _ hlt

end PhraseTables

/-! ## One more key of a phrase -/

namespace Ambiguity

/-- An entry after one more key of a phrase. -/
def withKey (ns phrase key : String) (entry : Ambiguity) : Ambiguity :=
  if entry.ns = ns ∧ entry.phrase = phrase then { entry with keys := entry.keys ++ [key] }
  else entry

variable {ns phrase first key : String} {entries : List Ambiguity}

/-- A phrase that is not listed is listed at the end. -/
theorem note_of_forall_not (h : ∀ entry ∈ entries, ¬(entry.ns = ns ∧ entry.phrase = phrase)) :
    note ns phrase first key entries = entries ++ [⟨ns, phrase, [first, key]⟩] := by
  induction entries with
  | nil => rfl
  | cons entry rest ih =>
    obtain ⟨hentry, hrest⟩ := List.forall_mem_cons.1 h
    rw [note, if_neg (by simpa using hentry), ih hrest, List.cons_append]

/-- The entry of a listed phrase gets the key. -/
theorem note_of_exists
    (hne : entries.Pairwise fun first second =>
      ¬(first.ns = second.ns ∧ first.phrase = second.phrase))
    (h : ∃ entry ∈ entries, entry.ns = ns ∧ entry.phrase = phrase) :
    note ns phrase first key entries = entries.map (withKey ns phrase key) := by
  induction entries with
  | nil => simp at h
  | cons entry rest ih =>
    obtain ⟨hentry, hrest⟩ := List.pairwise_cons.1 hne
    rw [note, List.map_cons, withKey]
    by_cases hsame : entry.ns = ns ∧ entry.phrase = phrase
    · have hothers : rest.map (withKey ns phrase key) = rest := by
        refine List.map_congr_left (fun other hother => if_neg fun hsame' => ?_)
          |>.trans (List.map_id rest)
        exact hentry other hother ⟨hsame.1.trans hsame'.1.symm, hsame.2.trans hsame'.2.symm⟩
      rw [if_pos (by simpa using hsame), if_pos hsame, hothers]
    · obtain ⟨other, hother, hsame'⟩ := h
      have hmem : other ∈ rest :=
        (List.mem_cons.1 hother).resolve_left fun heq => hsame (heq ▸ hsame')
      rw [if_neg (by simpa using hsame), if_neg hsame, ih hrest ⟨other, hmem, hsame'⟩]

@[simp] theorem ns_withKey (entry : Ambiguity) : (withKey ns phrase key entry).ns = entry.ns := by
  unfold withKey
  split <;> rfl

@[simp] theorem phrase_withKey (entry : Ambiguity) :
    (withKey ns phrase key entry).phrase = entry.phrase := by
  unfold withKey
  split <;> rfl

/-- A second key stays the second one. -/
theorem keys_withKey_of_eq_some {entry : Ambiguity} {second : String}
    (h : entry.keys[1]? = some second) : (withKey ns phrase key entry).keys[1]? = some second := by
  unfold withKey
  split
  · obtain ⟨hlt, -⟩ := List.getElem?_eq_some_iff.1 h
    rw [List.getElem?_append_left hlt, h]
  · exact h

theorem Precedes.withKey {entry other : Ambiguity} (h : entry.Precedes other) :
    (withKey ns phrase key entry).Precedes (withKey ns phrase key other) := by
  unfold Precedes
  simp only [ns_withKey]
  refine h.imp_right ?_
  rintro ⟨hns, second, otherSecond, hsecond, hother, hlt⟩
  exact ⟨hns, second, otherSecond, keys_withKey_of_eq_some hsecond,
    keys_withKey_of_eq_some hother, hlt⟩

end Ambiguity

namespace PhraseTables

variable {tables : PhraseTables} {ns key phrase first : String}

/-! ## One more key -/

/-- A key with a phrase that no key has: nothing is listed. -/
theorem Coherent.enter_of_none (h : tables.Coherent) (hahead : tables.Ahead ns key)
    (hnone : tables.phrases.get? ns phrase = none) : (tables.enter ns key phrase).Coherent := by
  have hkeys : tables.keysOf ns phrase = [] :=
    List.head?_eq_none_iff.1 ((h.get?_phrases ns phrase).symm.trans hnone)
  have henter : tables.enter ns key phrase
      = { tables with
          keys := tables.keys.insert ns key phrase
          phrases := tables.phrases.insert ns phrase key } := by
    unfold enter
    rw [hnone]
  refine ⟨fun other text => ?_, fun entry => ?_, ?_⟩
  · rw [keysOf_enter hahead, henter, Catalog.get?_insert]
    split
    · rw [hkeys]
      rfl
    · exact h.get?_phrases other text
  · rw [keysOf_enter hahead, show (tables.enter ns key phrase).ambiguities = tables.ambiguities by
      rw [henter], h.mem_ambiguities]
    split
    · next hsame =>
      -- Neither no key nor one key has a second one.
      rw [← hsame.1, ← hsame.2, hkeys]
      constructor <;> rintro ⟨hentry, second, hsecond⟩ <;> simp [hentry] at hsecond
    · rfl
  · rw [henter]
    exact h.sorted

/-- The entries with all keys of their phrases, after one more key of a listed phrase. -/
theorem Coherent.mem_map_withKey_iff (h : tables.Coherent)
    (hknown : ∃ entry ∈ tables.ambiguities, entry.ns = ns ∧ entry.phrase = phrase)
    {entry : Ambiguity} :
    (∃ old ∈ tables.ambiguities, Ambiguity.withKey ns phrase key old = entry)
      ↔ entry.keys = (if ns = entry.ns ∧ phrase = entry.phrase
          then tables.keysOf ns phrase ++ [key] else tables.keysOf entry.ns entry.phrase)
        ∧ ∃ second, entry.keys[1]? = some second := by
  constructor
  · rintro ⟨old, hold, rfl⟩
    obtain ⟨hkeys, second, hsecond⟩ := (h.mem_ambiguities old).1 hold
    refine ⟨?_, second, Ambiguity.keys_withKey_of_eq_some hsecond⟩
    rw [Ambiguity.ns_withKey, Ambiguity.phrase_withKey]
    unfold Ambiguity.withKey
    by_cases hsame : old.ns = ns ∧ old.phrase = phrase
    · rw [if_pos hsame, if_pos ⟨hsame.1.symm, hsame.2.symm⟩, hkeys, hsame.1, hsame.2]
    · rw [if_neg hsame, if_neg fun heq => hsame ⟨heq.1.symm, heq.2.symm⟩, hkeys]
  · rintro ⟨hkeys, hsecond⟩
    by_cases hsame : ns = entry.ns ∧ phrase = entry.phrase
    · obtain ⟨old, hold, hns, hphrase⟩ := hknown
      refine ⟨old, hold, ?_⟩
      rw [if_pos hsame] at hkeys
      rw [Ambiguity.withKey, if_pos ⟨hns, hphrase⟩, h.eq_keysOf hold, hns, hphrase, ← hkeys, hsame.1,
        hsame.2]
    · rw [if_neg hsame] at hkeys
      exact ⟨entry, (h.mem_ambiguities entry).2 ⟨hkeys, hsecond⟩,
        if_neg fun heq => hsame ⟨heq.1.symm, heq.2.symm⟩⟩

/-- A further key of a phrase: it is listed with the phrase. -/
theorem Coherent.enter_of_some (h : tables.Coherent) (hahead : tables.Ahead ns key)
    (hfirst : tables.phrases.get? ns phrase = some first) :
    (tables.enter ns key phrase).Coherent := by
  have hhead : (tables.keysOf ns phrase).head? = some first :=
    (h.get?_phrases ns phrase).symm.trans hfirst
  have henter : tables.enter ns key phrase
      = { tables with
          keys := tables.keys.insert ns key phrase
          ambiguities := Ambiguity.note ns phrase first key tables.ambiguities } := by
    unfold enter
    rw [hfirst]
  have hphrases : ∀ other text, (tables.enter ns key phrase).phrases.get? other text
      = ((tables.enter ns key phrase).keysOf other text).head? := by
    intro other text
    rw [keysOf_enter hahead, henter, h.get?_phrases]
    split
    · next hsame =>
      rw [← hsame.1, ← hsame.2, hhead, List.head?_append, hhead]
      rfl
    · rfl
  have hlisted : (tables.enter ns key phrase).ambiguities
      = Ambiguity.note ns phrase first key tables.ambiguities := by
    rw [henter]
  by_cases hknown : ∃ entry ∈ tables.ambiguities, entry.ns = ns ∧ entry.phrase = phrase
  · rw [Ambiguity.note_of_exists h.pairwise_ne hknown] at hlisted
    refine ⟨hphrases, fun entry => ?_, ?_⟩
    · rw [hlisted, List.mem_map, keysOf_enter hahead]
      exact h.mem_map_withKey_iff hknown
    · rw [hlisted]
      exact List.pairwise_map.2 (h.sorted.imp fun hprecedes => hprecedes.withKey)
  · have hunknown : ∀ entry ∈ tables.ambiguities, ¬(entry.ns = ns ∧ entry.phrase = phrase) :=
      fun entry hmem hsame => hknown ⟨entry, hmem, hsame⟩
    -- The phrase has the first key alone, since with a second one it would be listed.
    have honly : tables.keysOf ns phrase = [first] := by
      match hkeys : tables.keysOf ns phrase, hhead with
      | [only], hhead => exact congrArg ([·]) (Option.some.inj hhead)
      | only :: second :: rest, _ =>
        exact absurd ⟨rfl, rfl⟩ (hunknown ⟨ns, phrase, only :: second :: rest⟩
          ((h.mem_ambiguities _).2 ⟨hkeys.symm, second, rfl⟩))
    rw [Ambiguity.note_of_forall_not hunknown] at hlisted
    refine ⟨hphrases, fun entry => ?_, ?_⟩
    · rw [hlisted, List.mem_append, List.mem_singleton, h.mem_ambiguities, keysOf_enter hahead]
      split
      · next hsame =>
        obtain ⟨name, text, listed⟩ := entry
        obtain ⟨rfl, rfl⟩ := hsame
        simp only [honly, Ambiguity.mk.injEq, true_and]
        constructor
        · rintro (⟨rfl, second, hsecond⟩ | rfl)
          · simp at hsecond
          · exact ⟨rfl, key, rfl⟩
        · exact fun hentry => .inr hentry.1
      · next hsame =>
        refine or_iff_left ?_
        rintro rfl
        exact hsame ⟨rfl, rfl⟩
    · rw [hlisted]
      refine List.pairwise_append.2 ⟨h.sorted, List.pairwise_singleton _ _, ?_⟩
      rintro entry hmem _ hnew
      obtain rfl := List.mem_singleton.1 hnew
      obtain ⟨hkeys, second, hsecond⟩ := (h.mem_ambiguities entry).1 hmem
      have hcarried : tables.keys.get? entry.ns second = some entry.phrase :=
        mem_keysOf.1 (hkeys ▸ List.mem_of_getElem? hsecond)
      refine (hahead _ _ _ hcarried).imp_right ?_
      rintro ⟨hns, hlt⟩
      exact ⟨hns, second, key, hsecond, rfl, hlt⟩

/-- **One more key keeps the tables in agreement**, if it comes after all others. -/
theorem Coherent.enter (h : tables.Coherent) (hahead : tables.Ahead ns key) :
    (tables.enter ns key phrase).Coherent := by
  cases hfirst : tables.phrases.get? ns phrase with
  | none => exact h.enter_of_none hahead hfirst
  | some first => exact h.enter_of_some hahead hfirst

/-! ## The whole pass -/

theorem coherent_empty : empty.Coherent where
  get?_phrases _ _ := rfl
  mem_ambiguities entry := by
    constructor
    · exact fun hmem => absurd hmem List.not_mem_nil
    · rintro ⟨hkeys, second, hsecond⟩
      have hnil : entry.keys = [] := hkeys
      simp [hnil] at hsecond
  sorted := List.Pairwise.nil

/-- Beginning a namespace changes nothing that the tables say. -/
theorem Coherent.touch (h : tables.Coherent) (ns : String) : (tables.touch ns).Coherent := by
  have hkeys : ∀ other phrase, (tables.touch ns).keysOf other phrase
      = tables.keysOf other phrase := by
    intro other phrase
    refine List.Pairwise.eq_of_mem_iff (keysOf_sorted _ _ _) (keysOf_sorted _ _ _) fun key => ?_
    rw [mem_keysOf, mem_keysOf]
    exact iff_of_eq (congrArg (· = some phrase) (Catalog.get?_touch _ _ _ _))
  refine ⟨fun other phrase => ?_, fun entry => ?_, h.sorted⟩
  · rw [hkeys, ← h.get?_phrases]
    exact Catalog.get?_touch _ _ _ _
  · rw [hkeys]
    exact h.mem_ambiguities entry

theorem Ahead.touch (h : tables.Ahead ns key) (name : String) : (tables.touch name).Ahead ns key :=
  fun other text phrase hget => h other text phrase ((Catalog.get?_touch _ _ _ _).symm.trans hget)

/-- A key that comes after all others and after one more comes after all keys then. -/
theorem Ahead.enter {later : String} (h : tables.Ahead ns later) (hlt : key < later) :
    (tables.enter ns key phrase).Ahead ns later := by
  intro other name text hget
  rw [keys_enter, Catalog.get?_insert] at hget
  split at hget
  · next hsame => exact .inr ⟨hsame.1.symm, hsame.2 ▸ hlt⟩
  · exact h other name text hget

section Reading

variable {language : KeyLanguage} {untranslated : String}

theorem Coherent.readKey (h : tables.Coherent) {entry : String × String}
    (hahead : tables.Ahead ns entry.1) :
    (readKey language untranslated ns tables entry).Coherent := by
  unfold PhraseTables.readKey
  split
  · exact h
  · exact h.enter hahead

theorem Ahead.readKey {later : String} (h : tables.Ahead ns later) {entry : String × String}
    (hlt : entry.1 < later) : (readKey language untranslated ns tables entry).Ahead ns later := by
  unfold PhraseTables.readKey
  split
  · exact h
  · exact h.enter hlt

theorem Coherent.foldl_readKey {entries : List (String × String)}
    (sorted : entries.Pairwise (fun a b => a.1 < b.1)) (h : tables.Coherent)
    (hahead : ∀ entry ∈ entries, tables.Ahead ns entry.1) :
    (entries.foldl (PhraseTables.readKey language untranslated ns) tables).Coherent := by
  induction entries generalizing tables with
  | nil => exact h
  | cons entry rest ih =>
    obtain ⟨hlt, hrest⟩ := List.pairwise_cons.1 sorted
    obtain ⟨hentry, hahead⟩ := List.forall_mem_cons.1 hahead
    exact ih hrest (h.readKey hentry) fun later hmem =>
      (hahead later hmem).readKey (hlt later hmem)

theorem Coherent.foldl_readNamespace {entries : List (String × Dictionary String)}
    (sorted : entries.Pairwise (fun a b => a.1 < b.1)) (h : tables.Coherent)
    (hbelow : ∀ entry ∈ entries, ∀ other name phrase,
      tables.keys.get? other name = some phrase → other < entry.1) :
    (entries.foldl (readNamespace language untranslated) tables).Coherent := by
  induction entries generalizing tables with
  | nil => exact h
  | cons entry rest ih =>
    obtain ⟨hlt, hrest⟩ := List.pairwise_cons.1 sorted
    obtain ⟨hentry, hbelow⟩ := List.forall_mem_cons.1 hbelow
    refine ih hrest ?_ fun later hmem other name phrase hget => ?_
    · refine (h.touch entry.1).foldl_readKey entry.2.sorted fun key _ => Ahead.touch ?_ _
      exact fun other name phrase hget => .inl (hentry other name phrase hget)
    · rw [get?_keys_readNamespace] at hget
      split at hget
      · next heq => exact heq ▸ hlt later hmem
      · exact hbelow later hmem other name phrase hget

/-- **The tables of a catalog agree.** -/
theorem coherent_ofCatalog (catalog : Catalog) :
    (ofCatalog language untranslated catalog).Coherent :=
  coherent_empty.foldl_readNamespace catalog.namespaces.sorted fun _ _ _ _ _ hget =>
    absurd hget nofun

end Reading

end PhraseTables

end Phrasebook
