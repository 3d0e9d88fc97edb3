import Phrasebook.Catalog
import Phrasebook.Proofs.Dictionary

/-!
# What catalogs hold

A catalog is seen through `Catalog.get?`, the value of a key of a namespace. Each operation on
catalogs is one equation about that view.

Results:
* `find?_both_eq_none_iff`, `isSome_find?_both_iff`: searching for a namespace and a text.
* `Catalog.get?_insertNew`, `Catalog.get?_retain`, …: one equation an operation.
* `Catalog.mem_toList`: the listed values are exactly the found ones.
* `Catalog.keyCount_sub_keyCount_retain`: how many keys are not retained.
* `Catalog.get?_foldl_insert`, `Catalog.get?_foldl_insertNew`: of many values given to one key, the
  last one counts, and of those that only fill a gap, the first one.
-/

namespace Phrasebook

/-! ## Searching by namespace and text -/

section Search

variable {α : Type} {nameOf textOf : α → String} {items : List α} {ns text : String}

/-- What is found is an item with the namespace and the text. -/
theorem mem_of_find?_both {item : α}
    (h : items.find? (fun item => nameOf item == ns && textOf item == text) = some item) :
    item ∈ items ∧ nameOf item = ns ∧ textOf item = text := by
  have hcond := List.find?_some h
  simp only [Bool.and_eq_true, beq_iff_eq] at hcond
  exact ⟨List.mem_of_find?_eq_some h, hcond⟩

/-- **Nothing is found** exactly if no item has both. -/
theorem find?_both_eq_none_iff :
    items.find? (fun item => nameOf item == ns && textOf item == text) = none
      ↔ ∀ item ∈ items, ¬(nameOf item = ns ∧ textOf item = text) := by
  rw [List.find?_eq_none]
  simp only [Bool.and_eq_true, beq_iff_eq]

theorem isSome_find?_both_iff :
    (items.find? fun item => nameOf item == ns && textOf item == text).isSome
      ↔ ∃ item ∈ items, nameOf item = ns ∧ textOf item = text := by
  rw [List.find?_isSome]
  simp only [Bool.and_eq_true, beq_iff_eq]

end Search

namespace Catalog

/-! ## Single changes -/

@[simp] theorem get?_empty (ns key : String) : empty.get? ns key = none := rfl

theorem get?_touch (catalog : Catalog) (name ns key : String) :
    (catalog.touch name).get? ns key = catalog.get? ns key := by
  unfold get? touch
  rw [Dictionary.get?_insertNew]
  split
  · next h =>
    subst h
    cases catalog.namespaces.get? name <;> rfl
  · rfl

theorem get?_insert (catalog : Catalog) (name id value ns key : String) :
    (catalog.insert name id value).get? ns key
      = if name = ns ∧ id = key then some value else catalog.get? ns key := by
  unfold get? insert
  rw [Dictionary.get?_modify]
  by_cases hns : name = ns
  · subst hns
    rw [if_pos rfl, Option.bind_some, Dictionary.get?_insert]
    cases catalog.namespaces.get? name <;> simp
  · simp [hns]

theorem get?_insertNew (catalog : Catalog) (name id value ns key : String) :
    (catalog.insertNew name id value).get? ns key
      = if name = ns ∧ id = key then some ((catalog.get? ns key).getD value)
        else catalog.get? ns key := by
  unfold get? insertNew
  rw [Dictionary.get?_modify]
  by_cases hns : name = ns
  · subst hns
    rw [if_pos rfl, Option.bind_some, Dictionary.get?_insertNew]
    by_cases hkey : id = key
    · subst hkey
      cases catalog.namespaces.get? name <;> simp
    · cases catalog.namespaces.get? name <;> simp [hkey]
  · simp [hns]

theorem get?_retain (keep : String → String → Bool) (catalog : Catalog) (ns key : String) :
    (catalog.retain keep).get? ns key
      = if keep ns key then catalog.get? ns key else none := by
  unfold get? retain
  rw [Dictionary.get?_filter, Dictionary.get?_mapValues]
  cases hns : catalog.namespaces.get? ns with
  | none => simp
  | some keys =>
    have hfound : (keys.filter fun id _ => keep ns id).get? key
        = if keep ns key then keys.get? key else none := by
      rw [Dictionary.get?_filter]
      cases keys.get? key <;> cases keep ns key <;> simp
    rw [Option.map_some, Option.bind_some, ← hfound, Option.filter_some]
    split
    · rfl
    · next hempty =>
      have hnone : (keys.filter fun id _ => keep ns id).entries = [] := by
        simpa [Dictionary.isEmpty] using hempty
      unfold Dictionary.get?
      rw [hnone]
      rfl

/-! ## Listed values -/

theorem mem_toList {catalog : Catalog} {ns key value : String} :
    (ns, key, value) ∈ catalog.toList ↔ catalog.get? ns key = some value := by
  unfold toList get?
  rw [List.mem_flatMap, Option.bind_eq_some_iff]
  constructor
  · rintro ⟨⟨name, keys⟩, hns, hmem⟩
    obtain ⟨⟨id, text⟩, hkey, heq⟩ := List.mem_map.1 hmem
    simp only [Prod.mk.injEq] at heq
    obtain ⟨rfl, rfl, rfl⟩ := heq
    exact ⟨keys, Dictionary.mem_toList.1 hns, Dictionary.mem_toList.1 hkey⟩
  · rintro ⟨keys, hns, hkey⟩
    exact ⟨(ns, keys), Dictionary.mem_toList.2 hns,
      List.mem_map.2 ⟨(key, value), Dictionary.mem_toList.2 hkey, rfl⟩⟩

theorem exists_mem_toList_iff {catalog : Catalog} {ns key : String} :
    (∃ item ∈ catalog.toList, item.1 = ns ∧ item.2.1 = key) ↔ (catalog.get? ns key).isSome := by
  rw [Option.isSome_iff_exists]
  constructor
  · rintro ⟨⟨name, id, value⟩, hmem, rfl, rfl⟩
    exact ⟨value, mem_toList.1 hmem⟩
  · rintro ⟨value, hvalue⟩
    exact ⟨(ns, key, value), mem_toList.2 hvalue, rfl, rfl⟩

theorem exists_mem_keys_iff {catalog : Catalog} {ns key : String} :
    (∃ entry ∈ catalog.namespaces.toList, entry.1 = ns ∧ key ∈ entry.2.keys)
      ↔ (catalog.get? ns key).isSome := by
  unfold get?
  constructor
  · rintro ⟨⟨name, keys⟩, hmem, rfl, hkey⟩
    rw [Dictionary.mem_toList.1 hmem]
    exact Dictionary.mem_keys.1 hkey
  · intro hsome
    obtain ⟨value, hvalue⟩ := Option.isSome_iff_exists.1 hsome
    obtain ⟨keys, hns, hkey⟩ := Option.bind_eq_some_iff.1 hvalue
    exact ⟨(ns, keys), Dictionary.mem_toList.2 hns, rfl,
      Dictionary.mem_keys.2 (Option.isSome_iff_exists.2 ⟨value, hkey⟩)⟩

/-! ## Counting keys -/

theorem keyCount_eq_length (catalog : Catalog) : catalog.keyCount = catalog.toList.length := by
  unfold keyCount Dictionary.total Dictionary.values toList Dictionary.toList
  induction catalog.namespaces.entries with
  | nil => rfl
  | cons entry rest ih =>
    rw [List.map_cons, List.foldr_cons, ih, List.flatMap_cons, List.length_append, List.length_map]
    rfl

/-- Every key of a namespace is listed once. -/
theorem nodup_pairs (catalog : Catalog) :
    (catalog.toList.map fun item => (item.1, item.2.1)).Nodup := by
  unfold toList
  rw [List.map_flatMap, List.Nodup, List.pairwise_flatMap]
  constructor
  · rintro ⟨ns, keys⟩ -
    rw [List.map_map]
    refine List.pairwise_map.2 (keys.sorted.imp ?_)
    intro first second hlt heq
    exact String.lt_irrefl _ ((Prod.mk.inj heq).2 ▸ hlt)
  · refine catalog.namespaces.sorted.imp ?_
    rintro ⟨firstNs, firstKeys⟩ ⟨secondNs, secondKeys⟩ hlt left hleft right hright heq
    rw [List.map_map, List.mem_map] at hleft hright
    obtain ⟨_, -, rfl⟩ := hleft
    obtain ⟨_, -, rfl⟩ := hright
    exact String.lt_irrefl _ ((Prod.mk.inj heq).1 ▸ hlt)

theorem nodup_toList (catalog : Catalog) : catalog.toList.Nodup :=
  (List.pairwise_map.1 catalog.nodup_pairs).imp fun hne heq => hne (by rw [heq])

/-- The retained values are the listed ones with a key that is kept. -/
theorem perm_toList_retain (keep : String → String → Bool) (catalog : Catalog) :
    (catalog.retain keep).toList.Perm
      (catalog.toList.filter fun item => keep item.1 item.2.1) := by
  rw [List.perm_ext_iff_of_nodup (nodup_toList _) ((nodup_toList _).filter _)]
  rintro ⟨ns, key, value⟩
  rw [List.mem_filter, mem_toList, mem_toList, get?_retain]
  cases keep ns key <;> simp

/-- **The number of keys that are not retained.** -/
theorem keyCount_sub_keyCount_retain (keep : String → String → Bool) (catalog : Catalog) :
    catalog.keyCount - (catalog.retain keep).keyCount
      = (catalog.toList.filter fun item => !keep item.1 item.2.1).length := by
  rw [keyCount_eq_length, keyCount_eq_length, (catalog.perm_toList_retain keep).length_eq,
    ← List.countP_eq_length_filter, ← List.countP_eq_length_filter,
    List.length_eq_countP_add_countP (fun item => keep item.1 item.2.1), Nat.add_sub_cancel_left]
  simp only [Bool.not_eq_true, Bool.decide_eq_false]

/-! ## Many values -/

/-- Of many values given to one key, the last one counts, before the one that is there. -/
theorem get?_foldl_insert {α : Type} (nameOf keyOf valueOf : α → String) (items : List α)
    (catalog : Catalog) (ns key : String) :
    (items.foldl (fun found item =>
        found.insert (nameOf item) (keyOf item) (valueOf item)) catalog).get? ns key
      = ((items.reverse.find? fun item => nameOf item == ns && keyOf item == key).map valueOf).or
        (catalog.get? ns key) := by
  induction items generalizing catalog with
  | nil => rfl
  | cons item rest ih =>
    rw [List.foldl_cons, ih, get?_insert, List.reverse_cons, List.find?_append]
    cases rest.reverse.find? fun item => nameOf item == ns && keyOf item == key with
    | some found => rfl
    | none =>
      by_cases h : nameOf item = ns ∧ keyOf item = key
      · simp [h]
      · have hfalse : (nameOf item == ns && keyOf item == key) = false := by
          simpa [Bool.eq_false_iff] using h
        simp [h, hfalse]

/-- Of many values for one key, the first one counts, after the one that is there. -/
theorem get?_foldl_insertNew {α : Type} (nameOf keyOf valueOf : α → String) (items : List α)
    (catalog : Catalog) (ns key : String) :
    (items.foldl (fun found item =>
        found.insertNew (nameOf item) (keyOf item) (valueOf item)) catalog).get? ns key
      = (catalog.get? ns key).or
        ((items.find? fun item => nameOf item == ns && keyOf item == key).map valueOf) := by
  induction items generalizing catalog with
  | nil => simp
  | cons item rest ih =>
    rw [List.foldl_cons, ih, get?_insertNew, List.find?_cons]
    by_cases h : nameOf item = ns ∧ keyOf item = key
    · rw [if_pos h, h.1, h.2]
      cases catalog.get? ns key <;> simp
    · rw [if_neg h]
      have hfalse : (nameOf item == ns && keyOf item == key) = false := by
        simpa [Bool.eq_false_iff] using h
      rw [hfalse]

/-- One value for many keys reaches those that have none yet. -/
theorem get?_foldl_insertNew_same {α : Type} (nameOf keyOf : α → String) (value : String)
    (items : List α) (catalog : Catalog) (ns key : String) :
    (items.foldl (fun found item =>
        found.insertNew (nameOf item) (keyOf item) value) catalog).get? ns key
      = (catalog.get? ns key).or
        (if ∃ item ∈ items, nameOf item = ns ∧ keyOf item = key then some value else none) := by
  rw [get?_foldl_insertNew nameOf keyOf fun _ => value]
  congr 1
  simp only [← isSome_find?_both_iff]
  cases items.find? fun item => nameOf item == ns && keyOf item == key <;> rfl

end Catalog

end Phrasebook
