import Phrasebook.Dictionary

/-!
# What dictionaries find

Every operation on dictionaries is described by what a key finds afterwards, so that no later
argument looks at the entries. `Dictionary.get?_alter` says it for changes at one key; this file
says it for the operations derived from it, for `filter` and for `mapValues`.

Results:
* `Dictionary.get?_filter`, `Dictionary.get?_mapValues`: conditions and changes work key by key.
* `Dictionary.foldl_insert_toList`: a dictionary is what its entries give, inserted one by one.
-/

namespace Phrasebook.Dictionary

variable {α β : Type}

/-! ## Changes at one key -/

theorem get?_insertNew (dictionary : Dictionary α) (key other : String) (value : α) :
    (dictionary.insertNew key value).get? other
      = if key = other then some ((dictionary.get? key).getD value) else dictionary.get? other :=
  dictionary.get?_alter key other _

theorem get?_modify (dictionary : Dictionary α) (key other : String) (default : α)
    (change : α → α) :
    (dictionary.modify key default change).get? other
      = if key = other then some (change ((dictionary.get? key).getD default))
        else dictionary.get? other :=
  dictionary.get?_alter key other _

/-! ## Conditions and changes -/

theorem get?_filter (keep : String → α → Bool) (dictionary : Dictionary α) (key : String) :
    (dictionary.filter keep).get? key = (dictionary.get? key).filter (keep key) := by
  ext value
  rw [Option.filter_eq_some_iff, ← mem_toList, ← mem_toList]
  exact List.mem_filter

theorem get?_mapValues (change : String → α → β) (dictionary : Dictionary α) (key : String) :
    (dictionary.mapValues change).get? key = (dictionary.get? key).map (change key) := by
  ext value
  rw [Option.map_eq_some_iff, ← mem_toList]
  simp only [← mem_toList]
  unfold toList mapValues
  rw [List.mem_map]
  constructor
  · rintro ⟨⟨k, v⟩, hmem, heq⟩
    obtain ⟨rfl, rfl⟩ := Prod.mk.inj heq
    exact ⟨v, hmem, rfl⟩
  · rintro ⟨v, hmem, rfl⟩
    exact ⟨(key, v), hmem, rfl⟩

/-! ## Keys -/

theorem mem_keys {dictionary : Dictionary α} {key : String} :
    key ∈ dictionary.keys ↔ (dictionary.get? key).isSome := by
  rw [Option.isSome_iff_exists]
  simp only [← mem_toList]
  unfold keys toList
  rw [List.mem_map]
  constructor
  · rintro ⟨⟨k, v⟩, hmem, rfl⟩
    exact ⟨v, hmem⟩
  · rintro ⟨v, hmem⟩
    exact ⟨(key, v), hmem, rfl⟩

theorem mem_values {dictionary : Dictionary α} {value : α} :
    value ∈ dictionary.values ↔ ∃ key, dictionary.get? key = some value := by
  simp only [← mem_toList]
  unfold values toList
  rw [List.mem_map]
  constructor
  · rintro ⟨⟨key, v⟩, hmem, rfl⟩
    exact ⟨key, hmem⟩
  · rintro ⟨key, hmem⟩
    exact ⟨(key, value), hmem, rfl⟩

theorem keys_sorted (dictionary : Dictionary α) : dictionary.keys.Pairwise (· < ·) :=
  List.pairwise_map.2 dictionary.sorted

theorem nodup_keys (dictionary : Dictionary α) : dictionary.keys.Nodup := by
  refine dictionary.keys_sorted.imp ?_
  rintro a _ hlt rfl
  exact String.lt_irrefl a hlt

/-! ## Building from entries -/

/-- What a key finds after insertions: the value of the entry with that key, if there is one. -/
theorem get?_foldl_insert {entries : List (String × α)}
    (sorted : entries.Pairwise (fun a b => a.1 < b.1)) (start : Dictionary α) (key : String) :
    (entries.foldl (fun found entry => found.insert entry.1 entry.2) start).get? key
      = (findEntry key entries).or (start.get? key) := by
  induction entries generalizing start with
  | nil => rfl
  | cons entry rest ih =>
    obtain ⟨k, value⟩ := entry
    obtain ⟨hlt, hrest⟩ := List.pairwise_cons.1 sorted
    rw [List.foldl_cons, ih hrest, get?_insert]
    by_cases hk : k = key
    · subst hk
      rw [findEntry_eq_none_of_lt hlt]
      simp [findEntry]
    · simp [findEntry, hk]

/-- **A dictionary is what its entries give**, inserted one by one. -/
theorem foldl_insert_toList (dictionary : Dictionary α) :
    dictionary.toList.foldl (fun found entry => found.insert entry.1 entry.2) empty
      = dictionary := by
  ext key : 1
  unfold toList
  rw [get?_foldl_insert dictionary.sorted, get?_empty, Option.or_none]
  rfl

end Phrasebook.Dictionary
