import Mathlib.Data.List.Nodup
import Phrasebook.Pending
import Phrasebook.Proofs.Dictionary

/-!
# Pending pairs

Results:
* `Pending.mem_pairs_add`, `Pending.mem_pairs_addUnresolved`: what becomes pending.
* `Pending.nodup_pairs`: a phrase is pending once for each namespace.
-/

namespace Phrasebook.Pending

variable {pending : Pending} {phrase ns : String}

theorem mem_pairs :
    (phrase, ns) ∈ pending.pairs
      ↔ ∃ namespaces, pending.requests.get? phrase = some namespaces
        ∧ (namespaces.get? ns).isSome := by
  unfold pairs
  rw [List.mem_flatMap]
  constructor
  · rintro ⟨⟨other, namespaces⟩, hmem, hpair⟩
    obtain ⟨name, hname, heq⟩ := List.mem_map.1 hpair
    cases heq
    exact ⟨namespaces, Dictionary.mem_toList.1 hmem, Dictionary.mem_keys.1 hname⟩
  · rintro ⟨namespaces, hrequest, hns⟩
    exact ⟨(phrase, namespaces), Dictionary.mem_toList.2 hrequest,
      List.mem_map.2 ⟨ns, Dictionary.mem_keys.2 hns, rfl⟩⟩

theorem not_mem_pairs_empty : (phrase, ns) ∉ empty.pairs := List.not_mem_nil

/-- **One more pair is pending** after a phrase is added. -/
theorem mem_pairs_add {added name file : String} :
    (phrase, ns) ∈ (pending.add added name file).pairs
      ↔ (phrase, ns) ∈ pending.pairs ∨ phrase = added ∧ ns = name := by
  rw [mem_pairs, mem_pairs]
  unfold add TextSet.add
  rw [Dictionary.get?_modify]
  by_cases hphrase : added = phrase
  · subst hphrase
    rw [if_pos rfl]
    simp only [Option.some.injEq, exists_eq_left', Dictionary.get?_insert]
    by_cases hns : name = ns
    · simp [hns]
    · cases pending.requests.get? added <;> simp [hns, Ne.symm hns]
  · simp [hphrase, Ne.symm hphrase]

theorem mem_pairs_addUnresolved {unresolved : List Unresolved} :
    (phrase, ns) ∈ (pending.addUnresolved unresolved).pairs
      ↔ (phrase, ns) ∈ pending.pairs
        ∨ ∃ request ∈ unresolved, phrase = request.phrase ∧ ns = request.ns := by
  unfold addUnresolved
  induction unresolved generalizing pending with
  | nil => simp
  | cons request rest ih =>
    rw [List.foldl_cons, ih, mem_pairs_add, or_assoc]
    simp only [List.mem_cons, exists_eq_or_imp]

/-- **A phrase is pending once for each namespace.** -/
theorem nodup_pairs (pending : Pending) : pending.pairs.Nodup := by
  unfold pairs
  rw [List.nodup_flatMap]
  constructor
  · rintro ⟨phrase, namespaces⟩ -
    refine List.Nodup.map ?_ namespaces.nodup_keys
    intro first second h
    exact congrArg Prod.snd h
  · refine pending.requests.sorted.imp ?_
    rintro ⟨first, names⟩ ⟨second, others⟩ hlt pair hfirst hsecond
    obtain ⟨_, -, rfl⟩ := List.mem_map.1 hfirst
    obtain ⟨_, -, heq⟩ := List.mem_map.1 hsecond
    have hsame : second = first := congrArg Prod.fst heq
    rw [hsame] at hlt
    exact String.lt_irrefl _ hlt

end Phrasebook.Pending
