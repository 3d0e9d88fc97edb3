import Phrasebook.Proofs.Outcome

/-!
# Which key each candidate gets

`Outcome.assign` is computed by searches: for the first earlier outcome with a key, and for the
first free attempt below a bound. Here it is said without them. A key is held for a candidate
(`Outcome.IsHeld`) if the index or any earlier outcome gives it to another phrase, and a candidate
whose key is held gets the first marked key of all that is not. `Outcome.Assigned` relates
candidates to outcomes and conflicts by these rules alone. The searches agree with them because the
outcomes so far share no key between phrases.

Results:
* `Outcome.holder?_eq_some_iff`, `Outcome.holder?_eq_none_iff_not_isHeld`: the search for a holder is
  exact.
* `Outcome.isFirstFree_freeAttempt`: so is the search for a free attempt.
* `Outcome.assigned_iff`: the rules give candidates exactly what is computed.
* `Outcome.assigned_assign`: all of it for a batch, from no earlier outcomes.
-/

namespace Phrasebook

/-- The outcome of a candidate with a key. -/
def Candidate.outcome (candidate : Candidate) (key : String) (conflict : Bool) : Outcome :=
  ⟨candidate.phrase, candidate.ns, key, candidate.value, conflict⟩

namespace Outcome

/-! ## Held keys -/

/-- A key is held for a candidate: the index gives it to another phrase, or an earlier outcome of
the namespace with another phrase has it. -/
def IsHeld (index : PhraseIndex) (earlier : List Outcome) (candidate : Candidate) (key : String) :
    Prop :=
  (∃ phrase, index.phraseForKey? candidate.ns key = some phrase ∧ phrase ≠ candidate.phrase)
    ∨ ∃ outcome ∈ earlier, outcome.ns = candidate.ns ∧ outcome.key = key
      ∧ outcome.phrase ≠ candidate.phrase

/-- The phrase that holds a key for a candidate: that of the index, or else that of an earlier
outcome. -/
inductive Holds (index : PhraseIndex) (earlier : List Outcome) (candidate : Candidate)
    (key : String) : String → Prop
  | index {phrase : String} (carried : index.phraseForKey? candidate.ns key = some phrase)
      (other : phrase ≠ candidate.phrase) : Holds index earlier candidate key phrase
  | earlier {outcome : Outcome}
      (free : ∀ phrase, index.phraseForKey? candidate.ns key = some phrase →
        phrase = candidate.phrase)
      (mem : outcome ∈ earlier) (ns : outcome.ns = candidate.ns) (held : outcome.key = key)
      (other : outcome.phrase ≠ candidate.phrase) :
      Holds index earlier candidate key outcome.phrase

section Searches

variable {index : PhraseIndex} {earlier : List Outcome} {candidate : Candidate} {key : String}

theorem Holds.isHeld {existing : String} (h : Holds index earlier candidate key existing) :
    IsHeld index earlier candidate key := by
  cases h with
  | index carried other => exact .inl ⟨existing, carried, other⟩
  | earlier free mem ns held other => exact .inr ⟨_, mem, ns, held, other⟩

/-- **The search for a holder is exact**: among outcomes that share no key, the first one with the
key speaks for all of them. -/
theorem holder?_eq_some_iff (unshared : Unshared index earlier) {existing : String} :
    holder? index earlier candidate.ns candidate.phrase key = some existing
      ↔ Holds index earlier candidate key existing := by
  unfold holder?
  rw [Option.or_eq_some_iff, Option.filter_eq_none_iff, Option.filter_eq_some_iff,
    Option.filter_eq_some_iff, Option.map_eq_some_iff]
  simp only [bne_iff_ne, ne_eq, Decidable.not_not]
  constructor
  · rintro (⟨hcarried, hother⟩ | ⟨hfree, ⟨outcome, hfind, rfl⟩, hother⟩)
    · exact .index hcarried hother
    · obtain ⟨hmem, hns, hkey⟩ := mem_of_find?_both hfind
      exact .earlier hfree hmem hns hkey hother
  · intro h
    cases h with
    | index carried other => exact .inl ⟨carried, other⟩
    | @earlier outcome free mem ns held other =>
      obtain ⟨first, hfirst⟩ := Option.isSome_iff_exists.1
        (isSome_find?_both_iff.2 ⟨outcome, mem, ns, held⟩)
      obtain ⟨hfound, hns, hkey⟩ := mem_of_find?_both hfirst
      have hsame : first.phrase = outcome.phrase :=
        unshared.outcomes first hfound outcome mem (hns.trans ns.symm) (hkey.trans held.symm)
      exact .inr ⟨free, ⟨first, hfirst, hsame⟩, other⟩

theorem exists_holds_of_isHeld (h : IsHeld index earlier candidate key) :
    ∃ existing, Holds index earlier candidate key existing := by
  by_cases hfree : ∀ phrase, index.phraseForKey? candidate.ns key = some phrase →
      phrase = candidate.phrase
  · rcases h with ⟨phrase, hcarried, hother⟩ | ⟨outcome, hmem, hns, hkey, hother⟩
    · exact absurd (hfree phrase hcarried) hother
    · exact ⟨outcome.phrase, .earlier hfree hmem hns hkey hother⟩
  · simp only [Classical.not_forall] at hfree
    obtain ⟨phrase, hcarried, hother⟩ := hfree
    exact ⟨phrase, .index hcarried hother⟩

theorem holder?_eq_none_iff_not_isHeld (unshared : Unshared index earlier) :
    holder? index earlier candidate.ns candidate.phrase key = none
      ↔ ¬IsHeld index earlier candidate key := by
  rw [Option.eq_none_iff_forall_ne_some]
  constructor
  · intro hnone hheld
    obtain ⟨existing, hholds⟩ := exists_holds_of_isHeld hheld
    exact hnone existing ((holder?_eq_some_iff unshared).2 hholds)
  · intro hfree existing hsome
    exact hfree ((holder?_eq_some_iff unshared).1 hsome).isHeld

/-- The marked key of the attempt is the first one that is not held. -/
def IsFirstFree (index : PhraseIndex) (earlier : List Outcome) (candidate : Candidate)
    (attempt : Nat) : Prop :=
  ¬IsHeld index earlier candidate (markedKey candidate.key attempt)
    ∧ ∀ sooner < attempt, IsHeld index earlier candidate (markedKey candidate.key sooner)

theorem IsFirstFree.unique {first second : Nat} (hfirst : IsFirstFree index earlier candidate first)
    (hsecond : IsFirstFree index earlier candidate second) : first = second := by
  rcases Nat.lt_trichotomy first second with hlt | heq | hlt
  · exact absurd (hsecond.2 first hlt) hfirst.1
  · exact heq
  · exact absurd (hfirst.2 second hlt) hsecond.1

/-- **The search for a free attempt is exact**, though it is bounded. -/
theorem isFirstFree_freeAttempt (unshared : Unshared index earlier) :
    IsFirstFree index earlier candidate (freeAttempt index earlier candidate) := by
  refine ⟨(holder?_eq_none_iff_not_isHeld unshared).1 (holder?_freeAttempt index earlier candidate),
    fun sooner hlt => Classical.byContradiction fun hfree => ?_⟩
  exact holder?_ne_none_of_lt_freeAttempt hlt ((holder?_eq_none_iff_not_isHeld unshared).2 hfree)

/-! ## One candidate -/

/-- A candidate keeps a key that is not held. -/
theorem settle_of_not_isHeld (unshared : Unshared index earlier)
    (h : ¬IsHeld index earlier candidate candidate.key) :
    settle index earlier candidate = (candidate.outcome candidate.key false, none) := by
  unfold settle
  dsimp only
  rw [(holder?_eq_none_iff_not_isHeld unshared).2 h]
  rfl

/-- A candidate gets the first marked key in place of one that is held. -/
theorem settle_of_holds (unshared : Unshared index earlier) {existing : String} {attempt : Nat}
    (h : Holds index earlier candidate candidate.key existing)
    (hfree : IsFirstFree index earlier candidate attempt) :
    settle index earlier candidate
      = (candidate.outcome (markedKey candidate.key attempt) true,
          some ⟨candidate.ns, candidate.key, candidate.phrase, existing⟩) := by
  unfold settle
  dsimp only
  rw [(holder?_eq_some_iff unshared).2 h, hfree.unique (isFirstFree_freeAttempt unshared)]
  rfl

end Searches

/-! ## All candidates -/

/-- What becomes of candidates after earlier outcomes, one after the other. -/
inductive Assigned (index : PhraseIndex) :
    List Outcome → List Candidate → List Outcome → List Conflict → Prop
  | nil {earlier : List Outcome} : Assigned index earlier [] [] []
  | plain {earlier : List Outcome} {candidate : Candidate} {rest : List Candidate}
      {outcomes : List Outcome} {conflicts : List Conflict}
      (free : ¬IsHeld index earlier candidate candidate.key)
      (later : Assigned index (earlier ++ [candidate.outcome candidate.key false]) rest outcomes
        conflicts) :
      Assigned index earlier (candidate :: rest)
        (candidate.outcome candidate.key false :: outcomes) conflicts
  | marked {earlier : List Outcome} {candidate : Candidate} {rest : List Candidate}
      {outcomes : List Outcome} {conflicts : List Conflict} {existing : String} {attempt : Nat}
      (held : Holds index earlier candidate candidate.key existing)
      (free : IsFirstFree index earlier candidate attempt)
      (later : Assigned index
        (earlier ++ [candidate.outcome (markedKey candidate.key attempt) true]) rest outcomes
        conflicts) :
      Assigned index earlier (candidate :: rest)
        (candidate.outcome (markedKey candidate.key attempt) true :: outcomes)
        (⟨candidate.ns, candidate.key, candidate.phrase, existing⟩ :: conflicts)

section All

variable {index : PhraseIndex} {earlier : List Outcome} {candidates : List Candidate}
  {outcomes : List Outcome} {conflicts : List Conflict}

theorem assigned_assignAfter (unshared : Unshared index earlier) (candidates : List Candidate) :
    Assigned index earlier candidates (assignAfter index earlier candidates).1
      (assignAfter index earlier candidates).2 := by
  induction candidates generalizing earlier with
  | nil => exact .nil
  | cons candidate rest ih =>
    have hlater := ih (unshared_settle candidate unshared)
    unfold assignAfter
    dsimp only
    by_cases hheld : IsHeld index earlier candidate candidate.key
    · obtain ⟨existing, hholds⟩ := exists_holds_of_isHeld hheld
      have hfree : IsFirstFree index earlier candidate (freeAttempt index earlier candidate) :=
        isFirstFree_freeAttempt unshared
      rw [settle_of_holds unshared hholds hfree] at hlater ⊢
      exact .marked hholds hfree hlater
    · rw [settle_of_not_isHeld unshared hheld] at hlater ⊢
      exact .plain hheld hlater

theorem assignAfter_of_assigned (unshared : Unshared index earlier)
    (h : Assigned index earlier candidates outcomes conflicts) :
    assignAfter index earlier candidates = (outcomes, conflicts) := by
  induction h with
  | nil => rfl
  | @plain earlier candidate rest outcomes conflicts free later ih =>
    have hsettle := settle_of_not_isHeld unshared free
    have hlater := unshared_settle candidate unshared
    rw [hsettle] at hlater
    unfold assignAfter
    rw [hsettle]
    dsimp only
    rw [ih hlater]
    rfl
  | @marked earlier candidate rest outcomes conflicts existing attempt held free later ih =>
    have hsettle := settle_of_holds unshared held free
    have hlater := unshared_settle candidate unshared
    rw [hsettle] at hlater
    unfold assignAfter
    rw [hsettle]
    dsimp only
    rw [ih hlater]
    rfl

/-- **The rules give candidates exactly what is computed**, after outcomes that share no key. -/
theorem assigned_iff (unshared : Unshared index earlier) :
    Assigned index earlier candidates outcomes conflicts
      ↔ assignAfter index earlier candidates = (outcomes, conflicts) := by
  refine ⟨assignAfter_of_assigned unshared, fun h => ?_⟩
  have hassigned := assigned_assignAfter unshared candidates
  rwa [h] at hassigned

end All

/-- **Every candidate gets one outcome, with a key of its own.** The outcomes stand in the order of
the candidates and have their phrases, namespaces and values. Keys and conflicts are what the rules
say, and nothing else follows the rules. No key is shared between phrases, neither among the
outcomes nor with the index. -/
theorem assigned_assign (index : PhraseIndex) (candidates : List Candidate) :
    (assign index candidates).1.map (fun outcome => (outcome.phrase, outcome.ns, outcome.value))
        = candidates.map (fun candidate => (candidate.phrase, candidate.ns, candidate.value))
      ∧ (∀ outcomes conflicts, Assigned index [] candidates outcomes conflicts
        ↔ assign index candidates = (outcomes, conflicts))
      ∧ Unshared index (assign index candidates).1 :=
  ⟨map_candidate_assign index candidates, fun _ _ => assigned_iff (unshared_nil index),
    unshared_assign index candidates⟩

example : (assign PhraseIndex.empty [⟨"你好", "default", "hello", "hello"⟩,
      ⟨"您好", "default", "hello", "hello"⟩, ⟨"嗨", "default", "hello", "hello"⟩]).1.map (·.key)
    = ["hello", "hello__CONFLICT__", "hello__CONFLICT__2"] := by decide +kernel

end Outcome

end Phrasebook
