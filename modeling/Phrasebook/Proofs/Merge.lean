import Phrasebook.Merge
import Phrasebook.Proofs.Catalog

/-!
# Merging, key by key

A merge runs several passes over two catalogs. For one key of one namespace its result can be said
at once: whether the key is there (`Merge.keeps`), and then, for each catalog, the value that was
there, or else the one that is known, or else the untranslated mark (`Merge.settled`).

Results:
* `Merge.get?_source_run`, `Merge.get?_target_run`: the merged catalogs, key by key. Both have
  exactly the keys that `Merge.keeps` accepts.
* `Merge.get?_withOutcomes`: the keys of outcomes join the used ones, the first outcome of a key
  giving its phrase.
* `Merge.byKey_run`: all that a merge gives, said of each key on its own, without its passes.
-/

namespace Phrasebook.Merge

/-! ## The reference -/

/-- A key is there after a merge: only used keys if the merge prunes, else all that are known. -/
def keeps (rule : Merge) (used source target : Catalog) (ns key : String) : Bool :=
  (used.get? ns key).isSome
    || !rule.prune && ((source.get? ns key).isSome || (target.get? ns key).isSome)

/-- The value of a key after a merge: the one that was there unless it is the untranslated mark,
or else the known one, or else the mark. -/
def settled (untranslated : String) (value? known? : Option String) : String :=
  ((value?.filter (· != untranslated)).or known?).getD untranslated

theorem settled_of_ne {untranslated value : String} (h : value ≠ untranslated)
    (known? : Option String) : settled untranslated (some value) known? = value := by
  unfold settled
  rw [Option.filter_some, if_pos (bne_iff_ne.2 h)]
  rfl

theorem settled_of_untranslated {untranslated : String} {value? : Option String}
    (h : ∀ value, value? = some value → value = untranslated) (known? : Option String) :
    settled untranslated value? known? = known?.getD untranslated := by
  unfold settled
  have hnone : value?.filter (· != untranslated) = none := by
    rw [Option.filter_eq_none_iff]
    intro value hvalue
    simp [h value hvalue]
  rw [hnone]
  rfl

/-- If a value is the mark in the end, nothing else is known of it. -/
theorem eq_of_settled_eq {untranslated known : String} {value? : Option String}
    (h : settled untranslated value? (some known) = untranslated) : known = untranslated := by
  unfold settled at h
  cases hvalue : value?.filter (· != untranslated) with
  | none =>
    rw [hvalue] at h
    exact h
  | some value =>
    rw [hvalue] at h
    obtain ⟨-, hne⟩ := Option.filter_eq_some_iff.1 hvalue
    exact absurd h (bne_iff_ne.1 hne)

/-- Where a value other than the mark comes from. -/
theorem settled_eq_iff {untranslated value : String} (hvalue : value ≠ untranslated)
    {value? known? : Option String} :
    settled untranslated value? known? = value
      ↔ value? = some value
        ∨ (∀ old, value? = some old → old = untranslated) ∧ known? = some value := by
  by_cases hold : ∀ old, value? = some old → old = untranslated
  · rw [settled_of_untranslated hold]
    cases known? with
    | none =>
      simp only [Option.getD_none, hvalue.symm, false_iff, reduceCtorEq, and_false, or_false]
      exact fun h => hvalue (hold value h)
    | some known =>
      rw [Option.getD_some, Option.some.injEq]
      exact ⟨fun h => .inr ⟨hold, h⟩, fun h => h.elim (fun h => absurd (hold value h) hvalue) (·.2)⟩
  · obtain ⟨old, hsome, hne⟩ : ∃ old, value? = some old ∧ old ≠ untranslated := by
      simpa using hold
    rw [hsome, settled_of_ne hne, Option.some.injEq]
    exact ⟨.inl, fun h => h.elim id fun h => absurd (h.1 old rfl) hne⟩

/-! ## Passes -/

theorem get?_withOutcomes (used : Catalog) (outcomes : List Outcome) (ns key : String) :
    (withOutcomes used outcomes).get? ns key
      = (used.get? ns key).or
        ((outcomes.find? fun outcome => outcome.ns == ns && outcome.key == key).map (·.phrase)) :=
  Catalog.get?_foldl_insertNew Outcome.ns Outcome.key Outcome.phrase outcomes used ns key

/-- The used keys with those of outcomes. -/
theorem isSome_withOutcomes_iff {used : Catalog} {outcomes : List Outcome} {ns key : String} :
    ((withOutcomes used outcomes).get? ns key).isSome
      ↔ (used.get? ns key).isSome ∨ ∃ outcome ∈ outcomes, outcome.ns = ns ∧ outcome.key = key := by
  rw [get?_withOutcomes, Option.isSome_or, Bool.or_eq_true, Option.isSome_map,
    isSome_find?_both_iff]

theorem get?_keepUsed (used catalog : Catalog) (ns key : String) :
    (keepUsed used catalog).get? ns key
      = if (used.get? ns key).isSome then catalog.get? ns key else none :=
  Catalog.get?_retain _ catalog ns key

theorem get?_addUsed (untranslated : String) (used catalog : Catalog) (ns key : String) :
    (addUsed untranslated used catalog).get? ns key
      = (catalog.get? ns key).or (if (used.get? ns key).isSome then some untranslated else none) := by
  have hfold := Catalog.get?_foldl_insertNew_same (α := String × String × String) (·.1) (·.2.1)
    untranslated used.toList catalog ns key
  simp only [Catalog.exists_mem_toList_iff] at hfold
  exact hfold

/-- The keys of one namespace, added. -/
theorem get?_addNamespace (untranslated name : String) (ids : List String) (catalog : Catalog)
    (ns key : String) :
    (ids.foldl (fun found id => found.insertNew name id untranslated)
        (catalog.touch name)).get? ns key
      = (catalog.get? ns key).or (if name = ns ∧ key ∈ ids then some untranslated else none) := by
  rw [Catalog.get?_foldl_insertNew_same (fun _ => name) (fun id => id), Catalog.get?_touch]
  congr 2
  simp only [eq_iff_iff]
  constructor
  · rintro ⟨id, hmem, hns, rfl⟩
    exact ⟨hns, hmem⟩
  · rintro ⟨hns, hmem⟩
    exact ⟨key, hmem, hns, rfl⟩

/-- The keys of some namespaces, added. -/
theorem get?_addNamespaces (untranslated : String) (names : List (String × Dictionary String))
    (catalog : Catalog) (ns key : String) :
    (names.foldl (fun found entry =>
        entry.2.keys.foldl (fun found id => found.insertNew entry.1 id untranslated)
          (found.touch entry.1)) catalog).get? ns key
      = (catalog.get? ns key).or
        (if ∃ entry ∈ names, entry.1 = ns ∧ key ∈ entry.2.keys then some untranslated
          else none) := by
  induction names generalizing catalog with
  | nil => simp
  | cons entry rest ih =>
    rw [List.foldl_cons, ih, get?_addNamespace]
    cases catalog.get? ns key with
    | some value => simp
    | none =>
      by_cases hfirst : entry.1 = ns ∧ key ∈ entry.2.keys
      · simp [hfirst]
      · by_cases hrest : ∃ entry ∈ rest, entry.1 = ns ∧ key ∈ entry.2.keys <;>
          simp [hfirst, hrest]

theorem get?_addKeys (untranslated : String) (other catalog : Catalog) (ns key : String) :
    (addKeys untranslated other catalog).get? ns key
      = (catalog.get? ns key).or
        (if (other.get? ns key).isSome then some untranslated else none) := by
  have hfold := get?_addNamespaces untranslated other.namespaces.toList catalog ns key
  simp only [Catalog.exists_mem_keys_iff] at hfold
  exact hfold

theorem get?_fill (untranslated : String) (known? : String → String → Option String)
    (catalog : Catalog) (ns key : String) :
    (fill untranslated known? catalog).get? ns key
      = (catalog.get? ns key).map fun value =>
          settled untranslated (some value) (known? ns key) := by
  unfold fill Catalog.get?
  rw [Dictionary.get?_mapValues]
  cases catalog.namespaces.get? ns with
  | none => rfl
  | some keys =>
    rw [Option.map_some, Option.bind_some, Option.bind_some, Dictionary.get?_mapValues]
    congr 1
    funext value
    by_cases hvalue : value = untranslated
    · rw [if_pos hvalue, settled_of_untranslated (by rintro _ ⟨⟩; exact hvalue), hvalue]
    · rw [if_neg hvalue, settled_of_ne hvalue]

/-! ## The merged catalogs -/

section Run

variable (rule : Merge) (outcomes : List Outcome) (used source target : Catalog) (ns key : String)

/-- What is left of a catalog before the passes that add keys. -/
def kept (catalog : Catalog) : Catalog :=
  if rule.prune then keepUsed (withOutcomes used outcomes) catalog else catalog

theorem get?_kept (catalog : Catalog) :
    (rule.kept outcomes used catalog).get? ns key
      = if rule.prune && !((withOutcomes used outcomes).get? ns key).isSome then none
        else catalog.get? ns key := by
  unfold kept
  cases rule.prune with
  | false => simp
  | true =>
    rw [if_pos rfl, get?_keepUsed]
    cases ((withOutcomes used outcomes).get? ns key).isSome <;> simp

/-- The passes that add keys leave both catalogs with the keys that are kept or used. -/
theorem get?_full_source :
    (addKeys rule.untranslated
        (addKeys rule.untranslated
          (addUsed rule.untranslated (withOutcomes used outcomes) (rule.kept outcomes used source))
          (addUsed rule.untranslated (withOutcomes used outcomes) (rule.kept outcomes used target)))
        (addUsed rule.untranslated (withOutcomes used outcomes)
          (rule.kept outcomes used source))).get? ns key
      = if rule.keeps (withOutcomes used outcomes) source target ns key
        then some ((source.get? ns key).getD rule.untranslated) else none := by
  cases hprune : rule.prune <;> cases hused : (withOutcomes used outcomes).get? ns key <;>
    cases hsource : source.get? ns key <;> cases htarget : target.get? ns key <;>
    simp [get?_addKeys, get?_addUsed, get?_kept, keeps, hprune, hused, hsource, htarget]

theorem get?_full_target :
    (addKeys rule.untranslated
        (addUsed rule.untranslated (withOutcomes used outcomes) (rule.kept outcomes used source))
        (addUsed rule.untranslated (withOutcomes used outcomes)
          (rule.kept outcomes used target))).get? ns key
      = if rule.keeps (withOutcomes used outcomes) source target ns key
        then some ((target.get? ns key).getD rule.untranslated) else none := by
  cases hprune : rule.prune <;> cases hused : (withOutcomes used outcomes).get? ns key <;>
    cases hsource : source.get? ns key <;> cases htarget : target.get? ns key <;>
    simp [get?_addKeys, get?_addUsed, get?_kept, keeps, hprune, hused, hsource, htarget]

theorem settled_getD (untranslated : String) (value? known? : Option String) :
    settled untranslated (some (value?.getD untranslated)) known?
      = settled untranslated value? known? := by
  cases value? with
  | some value => rfl
  | none =>
    rw [settled_of_untranslated (by rintro _ ⟨⟩; rfl), settled_of_untranslated (by rintro _ ⟨⟩)]

/-- **The merged source catalog, key by key.** -/
theorem get?_source_run :
    (rule.run outcomes used source target).source.get? ns key
      = if rule.keeps (withOutcomes used outcomes) source target ns key
        then some (settled rule.untranslated (source.get? ns key)
          (rule.sourceValue? (withOutcomes used outcomes) ns key))
        else none := by
  have hfull := get?_full_source rule outcomes used source target ns key
  unfold kept at hfull
  unfold run
  rw [get?_fill, hfull]
  split
  · rw [Option.map_some, settled_getD]
  · rfl

/-- **The merged target catalog, key by key.** -/
theorem get?_target_run :
    (rule.run outcomes used source target).target.get? ns key
      = if rule.keeps (withOutcomes used outcomes) source target ns key
        then some (settled rule.untranslated (target.get? ns key)
          (rule.targetValue? outcomes ns key))
        else none := by
  have hfull := get?_full_target rule outcomes used source target ns key
  unfold kept at hfull
  unfold run
  rw [get?_fill, hfull]
  split
  · rw [Option.map_some, settled_getD]
  · rfl

variable {rule outcomes used source target ns key}

/-- A merge that does not prune removes nothing. -/
theorem pruned_run (hprune : rule.prune = false) :
    (rule.run outcomes used source target).pruned = 0 := by
  unfold run
  simp [hprune]

/-- If a value is the untranslated mark after a merge, the merge knew nothing else of it. -/
theorem eq_of_get?_source_run {known : String}
    (h : (rule.run outcomes used source target).source.get? ns key = some rule.untranslated)
    (hknown : rule.sourceValue? (withOutcomes used outcomes) ns key = some known) :
    known = rule.untranslated := by
  rw [get?_source_run, hknown] at h
  split at h
  · exact eq_of_settled_eq (Option.some.inj h)
  · cases h

theorem eq_of_get?_target_run {known : String}
    (h : (rule.run outcomes used source target).target.get? ns key = some rule.untranslated)
    (hknown : rule.targetValue? outcomes ns key = some known) : known = rule.untranslated := by
  rw [get?_target_run, hknown] at h
  split at h
  · exact eq_of_settled_eq (Option.some.inj h)
  · cases h

end Run

/-! ## The merge as a whole -/

/-- The phrase of a key in use: the one that scripts use it for, or else that of the first outcome
with the key. -/
def phraseInUse? (outcomes : List Outcome) (used : Catalog) (ns key : String) : Option String :=
  (used.get? ns key).or
    ((outcomes.find? fun outcome => outcome.ns == ns && outcome.key == key).map (·.phrase))

/-- The translation of a key: that of the first outcome with the key. -/
def translation? (outcomes : List Outcome) (ns key : String) : Option String :=
  (outcomes.find? fun outcome => outcome.ns == ns && outcome.key == key).map (·.value)

/-- The text that a key stands for, if keys are texts of a language. -/
def keyText? (rule : Merge) (language : KeyLanguage) (key : String) : Option String :=
  if rule.keyLanguage = language then some (Key.unescape key) else none

/-- What is merged of catalogs, key by key. -/
structure ByKey (rule : Merge) (outcomes : List Outcome) (used source target : Catalog)
    (merged : Merged) : Prop where
  /-- The keys are those in use, and those of either catalog unless the merge prunes. -/
  isSome_source : ∀ ns key, (merged.source.get? ns key).isSome
    ↔ (phraseInUse? outcomes used ns key).isSome
      ∨ rule.prune = false ∧ ((source.get? ns key).isSome ∨ (target.get? ns key).isSome)
  /-- Both catalogs have the same keys. -/
  isSome_target : ∀ ns key,
    (merged.target.get? ns key).isSome ↔ (merged.source.get? ns key).isSome
  sourceValue : ∀ ns key value, merged.source.get? ns key = some value →
    value = settled rule.untranslated (source.get? ns key)
      ((phraseInUse? outcomes used ns key).or (rule.keyText? .source key))
  targetValue : ∀ ns key value, merged.target.get? ns key = some value →
    value = settled rule.untranslated (target.get? ns key)
      ((translation? outcomes ns key).or (rule.keyText? .target key))
  /-- The keys that count as pruned are those of the source catalog that are not in use, if the
  merge prunes. -/
  pruned : ∃ removed : List (String × String), removed.Nodup
    ∧ (∀ ns key, (ns, key) ∈ removed ↔ rule.prune = true ∧ (source.get? ns key).isSome
      ∧ phraseInUse? outcomes used ns key = none)
    ∧ merged.pruned = removed.length

section Whole

variable {rule : Merge} {outcomes : List Outcome} {used source target : Catalog} {ns key : String}

theorem phraseInUse?_eq :
    phraseInUse? outcomes used ns key = (withOutcomes used outcomes).get? ns key :=
  (get?_withOutcomes used outcomes ns key).symm

theorem keeps_withOutcomes_iff :
    rule.keeps (withOutcomes used outcomes) source target ns key = true
      ↔ (phraseInUse? outcomes used ns key).isSome
        ∨ rule.prune = false ∧ ((source.get? ns key).isSome ∨ (target.get? ns key).isSome) := by
  unfold keeps
  rw [phraseInUse?_eq, Bool.or_eq_true, Bool.and_eq_true, Bool.or_eq_true, Bool.not_eq_true']

/-- The keys of a catalog that are not in use, in order. -/
def unusedKeys (outcomes : List Outcome) (used catalog : Catalog) : List (String × String) :=
  (catalog.toList.filter fun item => (phraseInUse? outcomes used item.1 item.2.1).isNone).map
    fun item => (item.1, item.2.1)

theorem nodup_unusedKeys (outcomes : List Outcome) (used catalog : Catalog) :
    (unusedKeys outcomes used catalog).Nodup :=
  catalog.nodup_pairs.sublist (List.filter_sublist.map _)

theorem mem_unusedKeys {catalog : Catalog} :
    (ns, key) ∈ unusedKeys outcomes used catalog
      ↔ (catalog.get? ns key).isSome ∧ phraseInUse? outcomes used ns key = none := by
  unfold unusedKeys
  rw [List.mem_map, ← Catalog.exists_mem_toList_iff, ← Option.isNone_iff_eq_none]
  constructor
  · rintro ⟨item, hmem, heq⟩
    obtain ⟨rfl, rfl⟩ := Prod.mk.inj heq
    obtain ⟨hlisted, hunused⟩ := List.mem_filter.1 hmem
    exact ⟨⟨item, hlisted, rfl, rfl⟩, hunused⟩
  · rintro ⟨⟨item, hlisted, rfl, rfl⟩, hunused⟩
    exact ⟨item, List.mem_filter.2 ⟨hlisted, hunused⟩, rfl⟩

/-- A merge that prunes counts the source keys that are not in use. -/
theorem pruned_run_of_prune (hprune : rule.prune = true) :
    (rule.run outcomes used source target).pruned
      = (unusedKeys outcomes used source).length := by
  unfold run
  dsimp only
  rw [if_pos hprune]
  unfold keepUsed unusedKeys
  rw [Catalog.keyCount_sub_keyCount_retain, List.length_map]
  simp only [phraseInUse?_eq, Option.not_isSome]

/-- **A merge, key by key**: the passes give each key what its reference says, whatever the other
keys are. -/
theorem byKey_run (rule : Merge) (outcomes : List Outcome) (used source target : Catalog) :
    rule.ByKey outcomes used source target (rule.run outcomes used source target) where
  isSome_source ns key := by
    rw [get?_source_run, ← keeps_withOutcomes_iff]
    split <;> simp_all
  isSome_target ns key := by
    rw [get?_source_run, get?_target_run]
    split <;> exact Iff.rfl
  sourceValue ns key value h := by
    rw [get?_source_run] at h
    split at h
    · rw [phraseInUse?_eq]
      exact (Option.some.inj h).symm
    · cases h
  targetValue ns key value h := by
    rw [get?_target_run] at h
    split at h
    · exact (Option.some.inj h).symm
    · cases h
  pruned := by
    cases hprune : rule.prune with
    | false => exact ⟨[], .nil, by simp, pruned_run hprune⟩
    | true =>
      refine ⟨unusedKeys outcomes used source, nodup_unusedKeys _ _ _, fun ns key => ?_,
        pruned_run_of_prune hprune⟩
      rw [mem_unusedKeys]
      exact (and_iff_right rfl).symm

end Whole

end Phrasebook.Merge
