import Phrasebook.Merge
import Phrasebook.Proofs.Merge

/-!
# Merges that change nothing

Catalogs are equal if they have the same namespaces and, key by key, the same values. A merge can
leave a namespace without keys, so the namespaces are told on their own here: both merged catalogs
have the same ones (`Merge.KeepsNamespace`). With that, a merge changes nothing if it has nothing to
remove, to add or to fill in (`Merge.RestsWith`, and `Merge.Rests` without outcomes). What a merge
leaves is at rest for the next one.

Results:
* `Catalog.ext_get?`: catalogs with the same namespaces and values are equal.
* `Merge.hasNamespace_source_run`, `Merge.hasNamespace_target_run`: the namespaces of the merged
  catalogs.
* `Merge.RestsWith.run_eq`: a merge at rest gives the catalogs back.
* `Merge.run_again`: a merge reaches its fixed point in one step.
-/

namespace Phrasebook

namespace Catalog

/-! ## Namespaces -/

/-- The namespace is there, with keys or without. -/
def HasNamespace (catalog : Catalog) (ns : String) : Prop := (catalog.namespaces.get? ns).isSome

variable {catalog : Catalog} {ns : String}

/-- A key is in a namespace. -/
theorem hasNamespace_of_isSome_get? {key : String} (h : (catalog.get? ns key).isSome) :
    catalog.HasNamespace ns := by
  unfold get? at h
  unfold HasNamespace
  cases hkeys : catalog.namespaces.get? ns with
  | none =>
    rw [hkeys] at h
    cases h
  | some keys => rfl

/-- **Catalogs with the same namespaces and values are equal.** -/
theorem ext_get? {first second : Catalog}
    (hnamespaces : ∀ ns, first.HasNamespace ns ↔ second.HasNamespace ns)
    (hvalues : ∀ ns key, first.get? ns key = second.get? ns key) : first = second := by
  have hsame : first.namespaces = second.namespaces := by
    ext ns : 1
    have hboth := hnamespaces ns
    have hkeys := hvalues ns
    unfold HasNamespace at hboth
    unfold get? at hkeys
    cases hfirst : first.namespaces.get? ns with
    | none =>
      rw [hfirst] at hboth
      exact (Option.isNone_iff_eq_none.1 (by simpa using hboth)).symm
    | some keys =>
      rw [hfirst] at hboth hkeys
      obtain ⟨others, hothers⟩ := Option.isSome_iff_exists.1 (hboth.1 rfl)
      rw [hothers] at hkeys ⊢
      exact congrArg some (Dictionary.ext hkeys)
  rcases first with ⟨namespaces⟩
  rcases second with ⟨namespaces'⟩
  exact congrArg Catalog.mk hsame

theorem hasNamespace_touch {name : String} :
    (catalog.touch name).HasNamespace ns ↔ catalog.HasNamespace ns ∨ name = ns := by
  unfold HasNamespace touch
  rw [Dictionary.get?_insertNew]
  by_cases hname : name = ns <;> simp [hname]

theorem hasNamespace_insertNew {name key value : String} :
    (catalog.insertNew name key value).HasNamespace ns ↔ catalog.HasNamespace ns ∨ name = ns := by
  unfold HasNamespace insertNew
  rw [Dictionary.get?_modify]
  by_cases hname : name = ns <;> simp [hname]

/-- Only namespaces with a key that is kept are retained. -/
theorem hasNamespace_retain {keep : String → String → Bool} :
    (catalog.retain keep).HasNamespace ns
      ↔ ∃ key, keep ns key = true ∧ (catalog.get? ns key).isSome := by
  have hget := get?_retain keep catalog ns
  constructor
  · intro h
    unfold HasNamespace retain at h
    obtain ⟨keys, hkeys⟩ := Option.isSome_iff_exists.1 h
    rw [Dictionary.get?_filter, Option.filter_eq_some_iff] at hkeys
    obtain ⟨hfound, hnonempty⟩ := hkeys
    obtain ⟨entry, rest, hentries⟩ : ∃ entry rest, keys.entries = entry :: rest := by
      refine List.exists_cons_of_ne_nil fun hnil => ?_
      simp [Dictionary.isEmpty, hnil] at hnonempty
    have hvalue : keys.get? entry.1 = some entry.2 :=
      Dictionary.mem_toList.1 (by
        unfold Dictionary.toList
        rw [hentries]
        exact List.mem_cons_self)
    have hretained : (catalog.retain keep).get? ns entry.1 = some entry.2 := by
      unfold get? retain
      rw [Dictionary.get?_filter, hfound, Option.filter_some, if_pos hnonempty]
      exact hvalue
    rw [hget] at hretained
    split at hretained
    · next hkeep => exact ⟨entry.1, hkeep, by rw [hretained]; rfl⟩
    · cases hretained
  · rintro ⟨key, hkeep, hvalue⟩
    have hretained : ((catalog.retain keep).get? ns key).isSome := by
      rw [hget, if_pos hkeep]
      exact hvalue
    exact hasNamespace_of_isSome_get? hretained

/-- Keys that are added bring their namespaces. -/
theorem hasNamespace_foldl_insertNew {α : Type} (nameOf keyOf valueOf : α → String)
    (items : List α) (catalog : Catalog) (ns : String) :
    (items.foldl (fun found item =>
        found.insertNew (nameOf item) (keyOf item) (valueOf item)) catalog).HasNamespace ns
      ↔ catalog.HasNamespace ns ∨ ∃ item ∈ items, nameOf item = ns := by
  induction items generalizing catalog with
  | nil => simp
  | cons item rest ih =>
    rw [List.foldl_cons, ih, hasNamespace_insertNew, or_assoc]
    simp only [List.mem_cons, exists_eq_or_imp]

end Catalog

namespace Merge

open Catalog

variable {catalog used source target : Catalog} {untranslated ns : String}

/-! ## Namespaces of merged catalogs -/

theorem hasNamespace_addUsed :
    (addUsed untranslated used catalog).HasNamespace ns
      ↔ catalog.HasNamespace ns ∨ ∃ key, (used.get? ns key).isSome := by
  have hfold := hasNamespace_foldl_insertNew (α := String × String × String) (·.1) (·.2.1)
    (fun _ => untranslated) used.toList catalog ns
  refine hfold.trans (or_congr_right ?_)
  simp only [← exists_mem_toList_iff]
  constructor
  · rintro ⟨item, hmem, hns⟩
    exact ⟨item.2.1, item, hmem, hns, rfl⟩
  · rintro ⟨_, item, hmem, hns, -⟩
    exact ⟨item, hmem, hns⟩

theorem hasNamespace_addKeys {other : Catalog} :
    (addKeys untranslated other catalog).HasNamespace ns
      ↔ catalog.HasNamespace ns ∨ other.HasNamespace ns := by
  have hfold : ∀ names : List (String × Dictionary String),
      (names.foldl (fun found entry =>
          entry.2.keys.foldl (fun found id => found.insertNew entry.1 id untranslated)
            (found.touch entry.1)) catalog).HasNamespace ns
        ↔ catalog.HasNamespace ns ∨ ∃ entry ∈ names, entry.1 = ns := by
    intro names
    induction names generalizing catalog with
    | nil => simp
    | cons entry rest ih =>
      have hkeys := hasNamespace_foldl_insertNew (fun _ => entry.1) (fun id => id)
        (fun _ => untranslated) entry.2.keys (catalog.touch entry.1) ns
      rw [List.foldl_cons, ih, hkeys, hasNamespace_touch]
      simp only [List.mem_cons, exists_eq_or_imp]
      constructor
      · rintro (((hold | hname) | ⟨_, -, hname⟩) | hrest)
        · exact .inl hold
        · exact .inr (.inl hname)
        · exact .inr (.inl hname)
        · exact .inr (.inr hrest)
      · rintro (hold | hname | hrest)
        · exact .inl (.inl (.inl hold))
        · exact .inl (.inl (.inr hname))
        · exact .inr hrest
  refine (hfold other.namespaces.toList).trans (or_congr_right ?_)
  unfold HasNamespace
  rw [Option.isSome_iff_exists]
  constructor
  · rintro ⟨⟨name, keys⟩, hmem, rfl⟩
    exact ⟨keys, Dictionary.mem_toList.1 hmem⟩
  · rintro ⟨keys, hkeys⟩
    exact ⟨(ns, keys), Dictionary.mem_toList.2 hkeys, rfl⟩

theorem hasNamespace_fill {known? : String → String → Option String} :
    (fill untranslated known? catalog).HasNamespace ns ↔ catalog.HasNamespace ns := by
  unfold HasNamespace fill
  rw [Dictionary.get?_mapValues, Option.isSome_map]

variable {rule : Merge} {outcomes : List Outcome}

/-- A namespace is there after a merge: those of used keys, and all others that were there unless
the merge prunes. -/
def KeepsNamespace (rule : Merge) (used source target : Catalog) (ns : String) : Prop :=
  (∃ key, (used.get? ns key).isSome)
    ∨ rule.prune = false ∧ (source.HasNamespace ns ∨ target.HasNamespace ns)

/-- What is left of two catalogs, with the used keys. -/
theorem hasNamespace_extended :
    (addUsed untranslated (withOutcomes used outcomes)
          (rule.kept outcomes used source)).HasNamespace ns
        ∨ (addUsed untranslated (withOutcomes used outcomes)
          (rule.kept outcomes used target)).HasNamespace ns
      ↔ rule.KeepsNamespace (withOutcomes used outcomes) source target ns := by
  rw [hasNamespace_addUsed, hasNamespace_addUsed]
  unfold KeepsNamespace kept
  cases rule.prune with
  | false =>
    rw [if_neg Bool.false_ne_true, if_neg Bool.false_ne_true]
    constructor
    · rintro ((hsource | hused) | htarget | hused)
      · exact .inr ⟨rfl, .inl hsource⟩
      · exact .inl hused
      · exact .inr ⟨rfl, .inr htarget⟩
      · exact .inl hused
    · rintro (hused | ⟨-, hsource | htarget⟩)
      · exact .inl (.inr hused)
      · exact .inl (.inl hsource)
      · exact .inr (.inl htarget)
  | true =>
    rw [if_pos rfl, if_pos rfl]
    unfold keepUsed
    rw [hasNamespace_retain, hasNamespace_retain]
    constructor
    · rintro ((⟨key, hkey, -⟩ | hused) | ⟨key, hkey, -⟩ | hused)
      · exact .inl ⟨key, hkey⟩
      · exact .inl hused
      · exact .inl ⟨key, hkey⟩
      · exact .inl hused
    · rintro (hused | ⟨hfalse, -⟩)
      · exact .inl (.inr hused)
      · cases hfalse

/-- **The namespaces of the merged target catalog.** -/
theorem hasNamespace_target_run :
    (rule.run outcomes used source target).target.HasNamespace ns
      ↔ rule.KeepsNamespace (withOutcomes used outcomes) source target ns := by
  unfold run
  rw [hasNamespace_fill, hasNamespace_addKeys, or_comm]
  exact hasNamespace_extended

/-- **The namespaces of the merged source catalog** are the same. -/
theorem hasNamespace_source_run :
    (rule.run outcomes used source target).source.HasNamespace ns
      ↔ rule.KeepsNamespace (withOutcomes used outcomes) source target ns := by
  unfold run
  rw [hasNamespace_fill, hasNamespace_addKeys, hasNamespace_addKeys, or_comm, or_assoc, or_self,
    or_comm]
  exact hasNamespace_extended

/-! ## Merges at rest -/

/-- A merge has nothing to do. -/
structure RestsWith (rule : Merge) (outcomes : List Outcome) (used source target : Catalog) :
    Prop where
  /-- There is no used key to add. -/
  added : ∀ ns key, ((withOutcomes used outcomes).get? ns key).isSome →
    (source.get? ns key).isSome
  /-- There is no key to add to one catalog for the other. -/
  keys : ∀ ns key, (target.get? ns key).isSome = (source.get? ns key).isSome
  namespaces : ∀ ns, target.HasNamespace ns ↔ source.HasNamespace ns
  /-- There is no key to remove, nor a namespace without keys. -/
  pruned : rule.prune = true → ∀ ns, source.HasNamespace ns →
    (∃ key, (source.get? ns key).isSome)
      ∧ ∀ key, (source.get? ns key).isSome → ((withOutcomes used outcomes).get? ns key).isSome
  /-- Nothing else is known of a value that is the untranslated mark. -/
  sourceKnown : ∀ ns key known, source.get? ns key = some rule.untranslated →
    rule.sourceValue? (withOutcomes used outcomes) ns key = some known →
      known = rule.untranslated
  targetKnown : ∀ ns key known, target.get? ns key = some rule.untranslated →
    rule.targetValue? outcomes ns key = some known → known = rule.untranslated

/-- A value stays if nothing else is known of it. -/
theorem settled_some_eq {value : String} {known? : Option String}
    (h : ∀ known, value = untranslated → known? = some known → known = untranslated) :
    settled untranslated (some value) known? = value := by
  by_cases hvalue : value = untranslated
  · rw [settled_of_untranslated (by rintro _ ⟨⟩; exact hvalue), hvalue]
    cases hknown : known? with
    | none => rfl
    | some known => exact h known hvalue hknown
  · exact settled_of_ne hvalue _

namespace RestsWith

/-- The kept keys of a merge at rest are those that are there. -/
theorem keeps_eq (h : rule.RestsWith outcomes used source target) (ns key : String) :
    rule.keeps (withOutcomes used outcomes) source target ns key
      = (source.get? ns key).isSome := by
  unfold keeps
  rw [h.keys, Bool.or_self, Bool.eq_iff_iff, Bool.or_eq_true, Bool.and_eq_true, Bool.not_eq_true']
  constructor
  · rintro (hused | ⟨-, hsource⟩)
    · exact h.added ns key hused
    · exact hsource
  · intro hsource
    cases hprune : rule.prune with
    | false => exact .inr ⟨rfl, hsource⟩
    | true => exact .inl ((h.pruned hprune ns (hasNamespace_of_isSome_get? hsource)).2 key hsource)

/-- So are the kept namespaces. -/
theorem keepsNamespace_iff (h : rule.RestsWith outcomes used source target) (ns : String) :
    rule.KeepsNamespace (withOutcomes used outcomes) source target ns
      ↔ source.HasNamespace ns := by
  unfold KeepsNamespace
  rw [h.namespaces, or_self]
  constructor
  · rintro (⟨key, hused⟩ | ⟨-, hsource⟩)
    · exact hasNamespace_of_isSome_get? (h.added ns key hused)
    · exact hsource
  · intro hsource
    cases hprune : rule.prune with
    | false => exact .inr ⟨rfl, hsource⟩
    | true =>
      obtain ⟨⟨key, hkey⟩, hused⟩ := h.pruned hprune ns hsource
      exact .inl ⟨key, hused key hkey⟩

/-- Pruning takes nothing away. -/
theorem keepUsed_eq (h : rule.RestsWith outcomes used source target) (hprune : rule.prune = true) :
    keepUsed (withOutcomes used outcomes) source = source := by
  refine ext_get? (fun ns => ?_) fun ns key => ?_
  · unfold keepUsed
    rw [hasNamespace_retain]
    constructor
    · rintro ⟨key, -, hkey⟩
      exact hasNamespace_of_isSome_get? hkey
    · intro hsource
      obtain ⟨⟨key, hkey⟩, hused⟩ := h.pruned hprune ns hsource
      exact ⟨key, hused key hkey, hkey⟩
  · rw [get?_keepUsed]
    cases hsource : source.get? ns key with
    | none => rw [ite_self]
    | some value =>
      have hkey : (source.get? ns key).isSome := by rw [hsource]; rfl
      rw [if_pos ((h.pruned hprune ns (hasNamespace_of_isSome_get? hkey)).2 key hkey)]

/-- **A merge at rest gives the catalogs back.** -/
theorem run_eq (h : rule.RestsWith outcomes used source target) :
    rule.run outcomes used source target = ⟨source, target, 0⟩ := by
  have hsource : (rule.run outcomes used source target).source = source := by
    refine ext_get? (fun ns => ?_) fun ns key => ?_
    · rw [hasNamespace_source_run, h.keepsNamespace_iff]
    · rw [get?_source_run, h.keeps_eq]
      cases hvalue : source.get? ns key with
      | none => rfl
      | some value =>
        rw [Option.isSome_some, if_pos rfl, settled_some_eq fun known heq hknown =>
          h.sourceKnown ns key known (heq ▸ hvalue) hknown]
  have htarget : (rule.run outcomes used source target).target = target := by
    refine ext_get? (fun ns => ?_) fun ns key => ?_
    · rw [hasNamespace_target_run, h.keepsNamespace_iff, h.namespaces]
    · rw [get?_target_run, h.keeps_eq, ← h.keys]
      cases hvalue : target.get? ns key with
      | none => rfl
      | some value =>
        rw [Option.isSome_some, if_pos rfl, settled_some_eq fun known heq hknown =>
          h.targetKnown ns key known (heq ▸ hvalue) hknown]
  have hpruned : (rule.run outcomes used source target).pruned = 0 := by
    unfold run
    dsimp only
    split
    · next hprune => rw [h.keepUsed_eq hprune, Nat.sub_self]
    · exact Nat.sub_self _
  exact congr (congr (congrArg Merged.mk hsource) htarget) hpruned

end RestsWith

/-- A merge without outcomes has nothing to do. -/
structure Rests (rule : Merge) (used source target : Catalog) : Prop where
  /-- There is no used key to add. -/
  added : ∀ ns key, (used.get? ns key).isSome → (source.get? ns key).isSome
  /-- There is no key to add to one catalog for the other. -/
  keys : ∀ ns key, (target.get? ns key).isSome = (source.get? ns key).isSome
  namespaces : ∀ ns, target.HasNamespace ns ↔ source.HasNamespace ns
  /-- There is no key to remove, nor a namespace without keys. -/
  pruned : rule.prune = true → ∀ ns, source.HasNamespace ns →
    (∃ key, (source.get? ns key).isSome)
      ∧ ∀ key, (source.get? ns key).isSome → (used.get? ns key).isSome
  /-- Nothing else is known of a value that is the untranslated mark. -/
  sourceKnown : ∀ ns key known, source.get? ns key = some rule.untranslated →
    rule.sourceValue? used ns key = some known → known = rule.untranslated
  targetKnown : ∀ ns key known, target.get? ns key = some rule.untranslated →
    rule.targetValue? [] ns key = some known → known = rule.untranslated

theorem Rests.restsWith (h : rule.Rests used source target) :
    rule.RestsWith [] used source target :=
  ⟨h.added, h.keys, h.namespaces, h.pruned, h.sourceKnown, h.targetKnown⟩

/-- **A merge without outcomes at rest** gives the catalogs back. -/
theorem Rests.run_eq (h : rule.Rests used source target) :
    rule.run [] used source target = ⟨source, target, 0⟩ := h.restsWith.run_eq

/-! ## Merging again -/

/-- A later merge knows nothing new of a value: where it knows one, the first merge knew one too,
which was the untranslated mark only if the later one knows no better. -/
def KnewAll (untranslated : String) (first? later? : Option String) : Prop :=
  ∀ known, later? = some known →
    ∃ other, first? = some other ∧ (other = untranslated → known = untranslated)

theorem knewAll_refl (untranslated : String) (known? : Option String) :
    KnewAll untranslated known? known? := fun known h => ⟨known, h, id⟩

variable {again : List Outcome}

/-- **What a merge leaves is at rest** for a later one that uses no other keys, all of them if it
prunes, and knows nothing new. -/
theorem restsWith_run
    (hkeys : ∀ ns key, ((withOutcomes used again).get? ns key).isSome →
      ((withOutcomes used outcomes).get? ns key).isSome)
    (hpruned : rule.prune = true → ∀ ns key,
      ((withOutcomes used outcomes).get? ns key).isSome →
        ((withOutcomes used again).get? ns key).isSome)
    (hsource : ∀ ns key, KnewAll rule.untranslated
      (rule.sourceValue? (withOutcomes used outcomes) ns key)
      (rule.sourceValue? (withOutcomes used again) ns key))
    (htarget : ∀ ns key, KnewAll rule.untranslated (rule.targetValue? outcomes ns key)
      (rule.targetValue? again ns key)) :
    rule.RestsWith again used (rule.run outcomes used source target).source
      (rule.run outcomes used source target).target where
  added ns key hused := by
    have hkeeps : rule.keeps (withOutcomes used outcomes) source target ns key = true := by
      unfold keeps
      rw [hkeys ns key hused, Bool.true_or]
    rw [get?_source_run, if_pos hkeeps, Option.isSome_some]
  keys ns key := by
    rw [get?_source_run, get?_target_run]
    split <;> rfl
  namespaces ns := by rw [hasNamespace_target_run, hasNamespace_source_run]
  pruned hprune ns hns := by
    have hused : ∀ key,
        ((rule.run outcomes used source target).source.get? ns key).isSome
          ↔ ((withOutcomes used outcomes).get? ns key).isSome := by
      intro key
      rw [get?_source_run]
      unfold keeps
      rw [hprune, Bool.not_true, Bool.false_and, Bool.or_false]
      split <;> simp_all
    rw [hasNamespace_source_run] at hns
    rcases hns with ⟨key, hkey⟩ | ⟨hfalse, -⟩
    · exact ⟨⟨key, (hused key).2 hkey⟩, fun key hkey => hpruned hprune ns key ((hused key).1 hkey)⟩
    · rw [hprune] at hfalse
      cases hfalse
  sourceKnown ns key known hmark hknown := by
    obtain ⟨other, hother, hsame⟩ := hsource ns key known hknown
    exact hsame (eq_of_get?_source_run hmark hother)
  targetKnown ns key known hmark hknown := by
    obtain ⟨other, hother, hsame⟩ := htarget ns key known hknown
    exact hsame (eq_of_get?_target_run hmark hother)

/-- Without outcomes a merge knows no phrase that it did not know with them. -/
theorem knewAll_sourceValue? (hphrase : ∀ outcome ∈ outcomes, outcome.phrase ≠ rule.untranslated)
    (ns key : String) :
    KnewAll rule.untranslated (rule.sourceValue? (withOutcomes used outcomes) ns key)
      (rule.sourceValue? used ns key) := by
  intro known hknown
  unfold sourceValue? at hknown ⊢
  rw [get?_withOutcomes]
  cases hused : used.get? ns key with
  | some phrase =>
    rw [hused] at hknown
    exact ⟨known, hknown, id⟩
  | none =>
    rw [hused] at hknown
    cases hfind : outcomes.find? fun outcome => outcome.ns == ns && outcome.key == key with
    | none => exact ⟨known, hknown, id⟩
    | some outcome =>
      exact ⟨outcome.phrase, rfl, fun h => absurd h (hphrase outcome (mem_of_find?_both hfind).1)⟩

/-- Nor does it know a new translation. -/
theorem knewAll_targetValue? (hvalue : ∀ outcome ∈ outcomes, outcome.value ≠ rule.untranslated)
    (ns key : String) :
    KnewAll rule.untranslated (rule.targetValue? outcomes ns key)
      (rule.targetValue? [] ns key) := by
  intro known hknown
  unfold targetValue? at hknown ⊢
  cases hfind : outcomes.find? fun outcome => outcome.ns == ns && outcome.key == key with
  | none => exact ⟨known, hknown, id⟩
  | some outcome =>
    exact ⟨outcome.value, rfl, fun h => absurd h (hvalue outcome (mem_of_find?_both hfind).1)⟩

/-- **Merging again changes nothing**: with the same outcomes, and without them if none of them has
the untranslated mark as its phrase or value and a merge that prunes finds their keys in use. -/
theorem run_again (rule : Merge) (outcomes : List Outcome) (used source target : Catalog) :
    rule.run outcomes used (rule.run outcomes used source target).source
        (rule.run outcomes used source target).target
      = ⟨(rule.run outcomes used source target).source,
          (rule.run outcomes used source target).target, 0⟩
    ∧ ((∀ outcome ∈ outcomes,
          outcome.phrase ≠ rule.untranslated ∧ outcome.value ≠ rule.untranslated) →
        (rule.prune = true → ∀ outcome ∈ outcomes, (used.get? outcome.ns outcome.key).isSome) →
        rule.run [] used (rule.run outcomes used source target).source
            (rule.run outcomes used source target).target
          = ⟨(rule.run outcomes used source target).source,
              (rule.run outcomes used source target).target, 0⟩) := by
  constructor
  · exact (restsWith_run (fun _ _ => id) (fun _ _ _ => id) (fun _ _ => knewAll_refl _ _)
      fun _ _ => knewAll_refl _ _).run_eq
  · intro hmark hused
    refine (restsWith_run (fun ns key hkey => ?_) (fun hprune ns key hkey => ?_)
      (knewAll_sourceValue? fun outcome hmem => (hmark outcome hmem).1)
      (knewAll_targetValue? fun outcome hmem => (hmark outcome hmem).2)).run_eq
    · exact isSome_withOutcomes_iff.2 (.inl hkey)
    · rcases isSome_withOutcomes_iff.1 hkey with hkey | ⟨outcome, hmem, rfl, rfl⟩
      · exact hkey
      · exact hused hprune outcome hmem

/-- A rule that prunes. -/
def smallRule : Merge := ⟨.target, "?", true⟩

/-- A phrase with a plain key and one with a marked key. -/
def smallOutcomes : List Outcome :=
  [⟨"你好", "default", "hello", "Hello", false⟩,
    ⟨"您好", "default", "hello__CONFLICT__", "Hello", true⟩]

/-- The keys of these phrases, and one more. -/
def smallUsed : Catalog :=
  ((Catalog.empty.insert "default" "hello" "你好").insert "default" "hello__CONFLICT__"
    "您好").insert "dl" "name" "名称"

/-- A catalog with a key that is not used, a value that is missing and a namespace without keys. -/
def smallSource : Catalog :=
  ((Catalog.empty.insert "default" "stale" "旧").insert "default" "hello" "?").touch "old"

/-- A catalog with a value that no outcome has. -/
def smallTarget : Catalog := Catalog.empty.insert "default" "hello" "Hi there"

/-- The merge of the small catalogs. -/
def smallMerged : Merged := smallRule.run smallOutcomes smallUsed smallSource smallTarget

/-- The small catalogs are merged with one key removed, and merged again without a change. -/
theorem run_small_again :
    smallMerged.pruned = 1
      ∧ smallRule.run [] smallUsed smallMerged.source smallMerged.target
        = ⟨smallMerged.source, smallMerged.target, 0⟩ := by
  have hmark : ∀ outcome ∈ smallOutcomes,
      outcome.phrase ≠ smallRule.untranslated ∧ outcome.value ≠ smallRule.untranslated := by
    decide
  have hused : smallRule.prune = true → ∀ outcome ∈ smallOutcomes,
      (smallUsed.get? outcome.ns outcome.key).isSome := by decide +kernel
  exact ⟨by decide +kernel,
    (run_again smallRule smallOutcomes smallUsed smallSource smallTarget).2 hmark hused⟩

end Merge

end Phrasebook
