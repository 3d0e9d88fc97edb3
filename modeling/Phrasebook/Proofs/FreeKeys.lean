import Mathlib.Data.List.Dedup
import Mathlib.Data.Nat.Init
import Phrasebook.Proofs.Outcome

/-!
# Searching for a free key

A candidate whose key is held tries the marked keys one after the other, with no bound on their
number, until nothing holds one. `Outcome.Searches` is that search, attempt by attempt. It ends,
because the marked keys are all different and only so many keys are held: every attempt but the last
one meets another held key. So the bounded search of `Outcome.freeAttempt` finds what the search
without a bound finds.

Results:
* `Outcome.searches_iff`: a search ends at the free attempt, and nowhere else.
* `Outcome.searches_bounded`: it takes no more attempts than there are held keys.
-/

namespace Phrasebook.Outcome

/-- A search that has come to an attempt ends at `last`: while something holds the marked key of the
attempt, it goes on with the next one. -/
inductive Searches (index : PhraseIndex) (earlier : List Outcome) (candidate : Candidate)
    (last : Nat) : Nat → Prop
  | found (free : holder? index earlier candidate.ns candidate.phrase
      (markedKey candidate.key last) = none) : Searches index earlier candidate last last
  | next {attempt : Nat} {existing : String}
      (held : holder? index earlier candidate.ns candidate.phrase
        (markedKey candidate.key attempt) = some existing)
      (more : Searches index earlier candidate last (attempt + 1)) :
      Searches index earlier candidate last attempt

/-- The number of keys of a namespace that the index or earlier outcomes hold. -/
def heldCount (index : PhraseIndex) (earlier : List Outcome) (ns : String) : Nat :=
  (heldKeys index earlier ns).dedup.length

variable {index : PhraseIndex} {earlier : List Outcome} {candidate : Candidate}
  {attempt first last other : Nat}

/-! ## Attempts of a search -/

/-- A search goes on only from held keys. -/
theorem Searches.mem_heldKeys (h : Searches index earlier candidate last first)
    (hfirst : first ≤ attempt) (hlast : attempt < last) :
    markedKey candidate.key attempt ∈ heldKeys index earlier candidate.ns := by
  induction h with
  | found => omega
  | @next current existing held _ ih =>
    rcases Nat.eq_or_lt_of_le hfirst with rfl | hlater
    · exact mem_heldKeys_of_holder? held
    · exact ih hlater

/-- **A search ends at one attempt only.** -/
theorem Searches.unique (h : Searches index earlier candidate last first)
    (hother : Searches index earlier candidate other first) : other = last := by
  induction h with
  | found free =>
    cases hother with
    | found => rfl
    | next held => exact absurd (free.symm.trans held) nofun
  | next held _ ih =>
    cases hother with
    | found free => exact absurd (free.symm.trans held) nofun
    | next _ more => exact ih more

/-- A search passes over held keys. -/
theorem searches_of_held (hle : first ≤ last)
    (hheld : ∀ attempt, first ≤ attempt → attempt < last →
      holder? index earlier candidate.ns candidate.phrase (markedKey candidate.key attempt) ≠ none)
    (hfree : holder? index earlier candidate.ns candidate.phrase (markedKey candidate.key last)
      = none) : Searches index earlier candidate last first := by
  induction hle using Nat.decreasingInduction with
  | self => exact .found hfree
  | of_succ first hlt ih =>
    obtain ⟨existing, hexisting⟩ := Option.ne_none_iff_exists'.1 (hheld first (Nat.le_refl _) hlt)
    exact .next hexisting (ih fun attempt hfirst => hheld attempt (Nat.le_of_succ_le hfirst))

/-- **A search ends at the free attempt**, and nowhere else. -/
theorem searches_iff :
    Searches index earlier candidate last 0 ↔ last = freeAttempt index earlier candidate := by
  have hfree : Searches index earlier candidate (freeAttempt index earlier candidate) 0 :=
    searches_of_held (Nat.zero_le _) (fun _ _ hlt => holder?_ne_none_of_lt_freeAttempt hlt)
      (holder?_freeAttempt index earlier candidate)
  refine ⟨fun h => hfree.unique h, ?_⟩
  rintro rfl
  exact hfree

/-! ## The number of attempts -/

/-- A marked key is longer than the key. -/
theorem markedKey_ne (key : String) (attempt : Nat) : markedKey key attempt ≠ key := by
  intro hsame
  have hlength := congrArg String.length hsame
  have hsuffix : conflictSuffix.length = 12 := rfl
  cases attempt <;> simp only [markedKey, String.length_append] at hlength <;> omega

/-- **A search takes no more attempts than there are held keys** if the plain key is one of them. -/
theorem Searches.attempts_le {existing : String}
    (held : holder? index earlier candidate.ns candidate.phrase candidate.key = some existing)
    (h : Searches index earlier candidate last 0) :
    last + 1 ≤ heldCount index earlier candidate.ns := by
  have hplain : candidate.key ∈ (heldKeys index earlier candidate.ns).dedup :=
    List.mem_dedup.2 (mem_heldKeys_of_holder? held)
  -- No attempt tries the plain key, so those that failed met the other held keys.
  have hothers : last ≤ ((heldKeys index earlier candidate.ns).dedup.erase candidate.key).length :=
    le_length_of_markedKey_mem fun attempt hlt =>
      (List.mem_erase_of_ne (markedKey_ne candidate.key attempt)).2
        (List.mem_dedup.2 (h.mem_heldKeys (Nat.zero_le attempt) hlt))
  have hpositive := List.length_pos_of_mem hplain
  rw [List.length_erase_of_mem hplain] at hothers
  unfold heldCount
  omega

/-- **The search for a free key ends**, whatever the index and the earlier outcomes are. A candidate
whose key is held tries marked keys that are all different. The search ends at one attempt, whose
key the outcome gets, and attempts count from zero: there are at most as many as keys of the
namespace are held, the plain one included. -/
theorem searches_bounded (index : PhraseIndex) (earlier : List Outcome) (candidate : Candidate)
    {existing : String}
    (held : holder? index earlier candidate.ns candidate.phrase candidate.key = some existing) :
    (∀ first second, markedKey candidate.key first = markedKey candidate.key second →
        first = second)
      ∧ ∃ last, Searches index earlier candidate last 0
        ∧ (∀ other, Searches index earlier candidate other 0 → other = last)
        ∧ (settle index earlier candidate).1.key = markedKey candidate.key last
        ∧ last + 1 ≤ heldCount index earlier candidate.ns := by
  have hends : Searches index earlier candidate (freeAttempt index earlier candidate) 0 :=
    searches_iff.2 rfl
  refine ⟨fun first second => markedKey_injective, _, hends, fun other => hends.unique, ?_,
    hends.attempts_le held⟩
  unfold settle
  dsimp only
  rw [held]

/-- Two phrases hold the plain key and the unnumbered marked one, so the second attempt is free. -/
theorem searches_hello :
    ∃ last, Searches .empty
        [⟨"你好", "common", "hello", "hello", false⟩,
          ⟨"您好", "common", "hello__CONFLICT__", "hello", true⟩]
        ⟨"嗨", "common", "hello", "hello"⟩ last 0
      ∧ markedKey "hello" last = "hello__CONFLICT__2" ∧ last + 1 ≤ 2 := by
  obtain ⟨-, last, hends, -, hkey, hbound⟩ := searches_bounded .empty
    [⟨"你好", "common", "hello", "hello", false⟩,
      ⟨"您好", "common", "hello__CONFLICT__", "hello", true⟩]
    ⟨"嗨", "common", "hello", "hello"⟩ (show _ = some "你好" by decide +kernel)
  refine ⟨last, hends, hkey.symm.trans ?_, Nat.le_trans hbound ?_⟩ <;> decide +kernel

end Phrasebook.Outcome
