/-!
# Dictionaries

A dictionary gives a value to some texts. Its entries stand in the order of their keys, so two
dictionaries with the same values are equal (`Dictionary.ext`), and whatever is listed from one
comes in code point order.

Models the sorted maps that documents, indexes and surveys are kept in.

Results:

* `Dictionary.get?_alter`: a change at a key changes what that key finds, and nothing else.
* `Dictionary.mem_toList`: the listed entries are exactly the found ones.
-/

namespace Phrasebook

/-- The value of a key in a list of entries. -/
def findEntry {α : Type} (key : String) : List (String × α) → Option α
  | [] => none
  | (k, value) :: rest => if k = key then some value else findEntry key rest

/-- An entry, or none. -/
def entryOf {α : Type} (key : String) : Option α → List (String × α)
  | none => []
  | some value => [(key, value)]

/-- The entries after a change of what `key` finds. -/
def alterEntries {α : Type} (key : String) (change : Option α → Option α) :
    List (String × α) → List (String × α)
  | [] => entryOf key (change none)
  | (k, value) :: rest =>
    if key < k then entryOf key (change none) ++ (k, value) :: rest
    else if k = key then entryOf key (change (some value)) ++ rest
    else (k, value) :: alterEntries key change rest

/-- Texts with values, in the order of the texts. -/
structure Dictionary (α : Type) where
  entries : List (String × α)
  sorted : entries.Pairwise (fun a b => a.1 < b.1)
  deriving DecidableEq

/-! ## Entries -/

variable {α β : Type}

theorem mem_of_findEntry {key : String} {value : α} {entries : List (String × α)}
    (h : findEntry key entries = some value) : (key, value) ∈ entries := by
  induction entries with
  | nil => simp [findEntry] at h
  | cons entry rest ih =>
    obtain ⟨k, v⟩ := entry
    by_cases hk : k = key
    · simp_all [findEntry]
    · simp only [findEntry, hk, if_false] at h
      exact List.mem_cons_of_mem _ (ih h)

theorem findEntry_of_mem {key : String} {value : α} {entries : List (String × α)}
    (sorted : entries.Pairwise (fun a b => a.1 < b.1)) (h : (key, value) ∈ entries) :
    findEntry key entries = some value := by
  induction entries with
  | nil => simp at h
  | cons entry rest ih =>
    obtain ⟨k, v⟩ := entry
    rw [List.pairwise_cons] at sorted
    rcases List.mem_cons.1 h with h | h
    · obtain ⟨rfl, rfl⟩ := Prod.mk.inj h
      simp [findEntry]
    · have hk : k ≠ key := fun hk => String.lt_irrefl key (hk ▸ sorted.1 _ h)
      simpa [findEntry, hk] using ih sorted.2 h

theorem findEntry_eq_none_of_lt {key : String} {entries : List (String × α)}
    (h : ∀ entry ∈ entries, key < entry.1) : findEntry key entries = none := by
  induction entries with
  | nil => rfl
  | cons entry rest ih =>
    have hk : entry.1 ≠ key := fun hk => String.lt_irrefl key (hk ▸ h entry (by simp))
    simp [findEntry, hk, ih fun e he => h e (by simp [he])]

theorem findEntry_entryOf_append (key other : String) (value? : Option α)
    (rest : List (String × α)) :
    findEntry other (entryOf key value? ++ rest)
      = if key = other then value? <|> findEntry other rest else findEntry other rest := by
  cases value? <;> by_cases h : key = other <;> simp [entryOf, findEntry, h]

theorem mem_alterEntries {key : String} {change : Option α → Option α} {entry : String × α}
    {entries : List (String × α)} (h : entry ∈ alterEntries key change entries) :
    entry.1 = key ∨ entry ∈ entries := by
  have ofEntry : ∀ value? : Option α, entry ∈ entryOf key value? → entry.1 = key := by
    intro value? h
    cases value? <;> simp_all [entryOf]
  induction entries with
  | nil => exact .inl (ofEntry _ h)
  | cons first rest ih =>
    simp only [alterEntries] at h
    split at h
    · rcases List.mem_append.1 h with h | h
      · exact .inl (ofEntry _ h)
      · exact .inr h
    · split at h
      · rcases List.mem_append.1 h with h | h
        · exact .inl (ofEntry _ h)
        · exact .inr (List.mem_cons_of_mem _ h)
      · rcases List.mem_cons.1 h with h | h
        · exact .inr (h ▸ List.mem_cons_self)
        · exact (ih h).imp id (List.mem_cons_of_mem _)

theorem sorted_entryOf_append {key : String} {value? : Option α} {rest : List (String × α)}
    (sorted : rest.Pairwise (fun a b => a.1 < b.1)) (h : ∀ entry ∈ rest, key < entry.1) :
    (entryOf key value? ++ rest).Pairwise (fun a b => a.1 < b.1) := by
  cases value? with
  | none => simpa [entryOf] using sorted
  | some value => exact List.pairwise_cons.2 ⟨h, sorted⟩

theorem sorted_alterEntries {key : String} {change : Option α → Option α}
    {entries : List (String × α)} (sorted : entries.Pairwise (fun a b => a.1 < b.1)) :
    (alterEntries key change entries).Pairwise (fun a b => a.1 < b.1) := by
  induction entries with
  | nil =>
    have h : (entryOf key (change none) ++ []).Pairwise (fun a b : String × α => a.1 < b.1) :=
      sorted_entryOf_append List.Pairwise.nil (by simp)
    simpa [alterEntries] using h
  | cons first rest ih =>
    rw [List.pairwise_cons] at sorted
    simp only [alterEntries]
    split
    · next hlt =>
      refine sorted_entryOf_append (List.pairwise_cons.2 sorted) ?_
      intro entry hmem
      rcases List.mem_cons.1 hmem with rfl | hmem
      · exact hlt
      · exact String.lt_trans hlt (sorted.1 _ hmem)
    · split
      · next heq => exact sorted_entryOf_append sorted.2 (heq ▸ sorted.1)
      · next hlt hne =>
        refine List.pairwise_cons.2 ⟨?_, ih sorted.2⟩
        intro entry hmem
        rcases mem_alterEntries hmem with hkey | hmem
        · rw [hkey]
          exact Std.lt_of_le_of_ne (String.not_lt.1 hlt) hne
        · exact sorted.1 _ hmem

theorem findEntry_alterEntries {key other : String} {change : Option α → Option α}
    {entries : List (String × α)} (sorted : entries.Pairwise (fun a b => a.1 < b.1)) :
    findEntry other (alterEntries key change entries)
      = if key = other then change (findEntry key entries) else findEntry other entries := by
  induction entries with
  | nil =>
    have h := findEntry_entryOf_append key other (change none) []
    by_cases hk : key = other <;> simp_all [alterEntries, findEntry]
  | cons first rest ih =>
    obtain ⟨k, value⟩ := first
    have sorted' := List.pairwise_cons.1 sorted
    simp only [alterEntries]
    split
    · next hlt =>
      have hfirst : findEntry key ((k, value) :: rest) = none := by
        refine findEntry_eq_none_of_lt ?_
        intro entry hmem
        rcases List.mem_cons.1 hmem with rfl | hmem
        · exact hlt
        · exact String.lt_trans hlt (sorted'.1 _ hmem)
      rw [findEntry_entryOf_append]
      by_cases hk : key = other
      · subst hk
        simp [hfirst]
      · simp [hk]
    · split
      · next heq =>
        subst heq
        have hrest : findEntry k rest = none := findEntry_eq_none_of_lt sorted'.1
        rw [findEntry_entryOf_append]
        by_cases hk : k = other
        · subst hk
          simp [hrest, findEntry]
        · simp [hk, findEntry]
      · next hne =>
        simp only [findEntry, ih sorted'.2]
        by_cases hk : k = other
        · subst hk
          simp [Ne.symm hne]
        · by_cases hko : key = other <;> simp_all

theorem eq_of_findEntry {first second : List (String × α)}
    (sortedFirst : first.Pairwise (fun a b => a.1 < b.1))
    (sortedSecond : second.Pairwise (fun a b => a.1 < b.1))
    (h : ∀ key, findEntry key first = findEntry key second) : first = second := by
  induction first generalizing second with
  | nil =>
    cases second with
    | nil => rfl
    | cons entry rest => simpa [findEntry] using h entry.1
  | cons entry rest ih =>
    obtain ⟨k, value⟩ := entry
    cases second with
    | nil => simpa [findEntry] using h k
    | cons entry' rest' =>
      obtain ⟨k', value'⟩ := entry'
      have s := List.pairwise_cons.1 sortedFirst
      have s' := List.pairwise_cons.1 sortedSecond
      have below : ∀ {a b : String} {v w : α} {r : List (String × α)},
          (∀ e ∈ r, b < e.1) → a < b → findEntry a ((b, w) :: r) = some v → False := by
        intro a b v w r hr hab hfind
        have hnone : findEntry a ((b, w) :: r) = none := by
          refine findEntry_eq_none_of_lt ?_
          intro e hmem
          rcases List.mem_cons.1 hmem with rfl | hmem
          · exact hab
          · exact String.lt_trans hab (hr _ hmem)
        simp [hnone] at hfind
      have heq : k = k' := by
        refine String.le_antisymm (String.not_lt.1 fun hlt => ?_) (String.not_lt.1 fun hlt => ?_)
        · exact below s.1 hlt ((h k').trans (by simp [findEntry]) : _ = some value')
        · exact below s'.1 hlt ((h k).symm.trans (by simp [findEntry]) : _ = some value)
      subst heq
      have hvalue : value = value' := by simpa [findEntry] using h k
      subst hvalue
      have hrest : rest = rest' := by
        refine ih s.2 s'.2 fun key => ?_
        by_cases hk : k = key
        · subst hk
          rw [findEntry_eq_none_of_lt s.1, findEntry_eq_none_of_lt s'.1]
        · simpa [findEntry, hk] using h key
      rw [hrest]

/-! ## Dictionaries -/

namespace Dictionary

/-- The dictionary without entries. -/
def empty : Dictionary α := ⟨[], .nil⟩

instance : Inhabited (Dictionary α) := ⟨empty⟩
instance : EmptyCollection (Dictionary α) := ⟨empty⟩

/-- The entries, in the order of the keys. -/
def toList (dictionary : Dictionary α) : List (String × α) := dictionary.entries

/-- The keys, in order. -/
def keys (dictionary : Dictionary α) : List String := dictionary.entries.map (·.1)

/-- The values, in the order of their keys. -/
def values (dictionary : Dictionary α) : List α := dictionary.entries.map (·.2)

/-- The number of entries. -/
def size (dictionary : Dictionary α) : Nat := dictionary.entries.length

/-- The sum of a measure of the values. -/
def total (measure : α → Nat) (dictionary : Dictionary α) : Nat :=
  dictionary.values.foldr (fun value sum => measure value + sum) 0

/-- There are no entries. -/
def isEmpty (dictionary : Dictionary α) : Bool := dictionary.entries.isEmpty

/-- The value of a key. -/
def get? (dictionary : Dictionary α) (key : String) : Option α :=
  findEntry key dictionary.entries

/-- The key has a value. -/
def contains (dictionary : Dictionary α) (key : String) : Bool := (dictionary.get? key).isSome

/-- Changes the value of a key, or adds or removes the key. -/
def alter (dictionary : Dictionary α) (key : String) (change : Option α → Option α) :
    Dictionary α :=
  ⟨alterEntries key change dictionary.entries, sorted_alterEntries dictionary.sorted⟩

/-- Gives a key a value. -/
def insert (dictionary : Dictionary α) (key : String) (value : α) : Dictionary α :=
  dictionary.alter key fun _ => some value

/-- Gives a key a value unless it has one. -/
def insertNew (dictionary : Dictionary α) (key : String) (value : α) : Dictionary α :=
  dictionary.alter key fun found => some (found.getD value)

/-- Changes the value of a key, from a default if it has none. -/
def modify (dictionary : Dictionary α) (key : String) (default : α) (change : α → α) :
    Dictionary α :=
  dictionary.alter key fun found => some (change (found.getD default))

/-- Takes away a key. -/
def erase (dictionary : Dictionary α) (key : String) : Dictionary α :=
  dictionary.alter key fun _ => none

/-- The entries that satisfy a condition. -/
def filter (keep : String → α → Bool) (dictionary : Dictionary α) : Dictionary α :=
  ⟨dictionary.entries.filter fun entry => keep entry.1 entry.2, dictionary.sorted.filter _⟩

/-- New values by the keys and the old values. -/
def mapValues (change : String → α → β) (dictionary : Dictionary α) : Dictionary β :=
  ⟨dictionary.entries.map fun entry => (entry.1, change entry.1 entry.2),
    List.pairwise_map.2 dictionary.sorted⟩

/-- The dictionary of a list of entries, of which the last of a key counts. -/
def ofList (entries : List (String × α)) : Dictionary α :=
  entries.foldl (fun dictionary entry => dictionary.insert entry.1 entry.2) empty

theorem get?_alter (dictionary : Dictionary α) (key other : String)
    (change : Option α → Option α) :
    (dictionary.alter key change).get? other
      = if key = other then change (dictionary.get? key) else dictionary.get? other :=
  findEntry_alterEntries dictionary.sorted

theorem get?_insert (dictionary : Dictionary α) (key other : String) (value : α) :
    (dictionary.insert key value).get? other
      = if key = other then some value else dictionary.get? other :=
  dictionary.get?_alter key other _

@[simp] theorem get?_empty (key : String) : (empty : Dictionary α).get? key = none := rfl

theorem mem_toList {dictionary : Dictionary α} {key : String} {value : α} :
    (key, value) ∈ dictionary.toList ↔ dictionary.get? key = some value :=
  ⟨findEntry_of_mem dictionary.sorted, mem_of_findEntry⟩

/-- Dictionaries that find the same are equal. -/
@[ext] theorem ext {first second : Dictionary α}
    (h : ∀ key, first.get? key = second.get? key) : first = second := by
  obtain ⟨entries, sorted⟩ := first
  obtain ⟨entries', sorted'⟩ := second
  have : entries = entries' := eq_of_findEntry sorted sorted' h
  subst this
  rfl

end Dictionary

/-- A set of texts. -/
abbrev TextSet := Dictionary Unit

namespace TextSet

/-- Adds a text. -/
def add (set : TextSet) (text : String) : TextSet := Dictionary.insert set text ()

/-- The set of the texts of a list. -/
def ofTexts (texts : List String) : TextSet := texts.foldl add Dictionary.empty

end TextSet

end Phrasebook
