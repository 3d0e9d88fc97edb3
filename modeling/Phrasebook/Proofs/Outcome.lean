import Phrasebook.Outcome
import Phrasebook.Proofs.PhraseIndex

/-!
# The keys of outcomes

`Outcome.assign` settles the candidates one after the other, each against the index and the
outcomes before it. What one step keeps is `Outcome.Unshared`: no outcome has a key that the index
gives to another phrase, and two outcomes of a namespace with one key have one phrase.

Results:
* `Outcome.markedKey_injective`: the marked keys of the attempts are all different, so that one of
  the first `heldBound + 1` attempts is free (`Outcome.holder?_freeAttempt`).
* `Outcome.unshared_assign`: the outcomes of any candidates share no key between phrases.
* `Outcome.unescape_key_of_mem_assignAfter`: keys that are phrases are never marked.
* `Outcome.exists_of_mem_assignAfter`: the key of an outcome is that of its candidate, plain or
  marked.
* `Outcome.isHeld_of_mem_assignAfter`: the plain key of every candidate is held in the end.
* `Outcome.map_candidate_assign`: there is one outcome for each candidate, in order, with its
  phrase, namespace and value.
-/

namespace Phrasebook.Outcome

/-! ## Marked keys -/

theorem toString_injective {first second : Nat} (h : toString first = toString second) :
    first = second := by
  have hdigits : Nat.toDigits 10 first = Nat.toDigits 10 second := by
    rw [← Nat.toList_repr, ← Nat.toList_repr]
    exact congrArg String.toList h
  calc
    first = Nat.ofDigitChars 10 (Nat.toDigits 10 first) 0 := Nat.ofDigitChars_ten_toDigits.symm
    _ = Nat.ofDigitChars 10 (Nat.toDigits 10 second) 0 := by rw [hdigits]
    _ = second := Nat.ofDigitChars_ten_toDigits

/-- **The marked keys of different attempts differ**, the unnumbered one included. -/
theorem markedKey_injective {key : String} {first second : Nat}
    (h : markedKey key first = markedKey key second) : first = second := by
  have unnumbered : ∀ attempt, markedKey key 0 ≠ markedKey key (attempt + 1) := by
    intro attempt heq
    simp only [markedKey] at heq
    have hlength := congrArg String.length heq
    have hpos : 0 < (toString (attempt + 2)).length := by
      rw [Nat.toString_eq_repr, ← String.length_toList, Nat.toList_repr]
      exact Nat.length_toDigits_pos
    simp only [String.length_append] at hlength
    omega
  cases first with
  | zero =>
    cases second with
    | zero => rfl
    | succ attempt => exact absurd h (unnumbered attempt)
  | succ attempt =>
    cases second with
    | zero => exact absurd h.symm (unnumbered attempt)
    | succ attempt' =>
      simp only [markedKey, String.append_right_inj] at h
      have := toString_injective h
      omega

/-- A list that has the marked keys of some first attempts has at least as many keys. -/
theorem le_length_of_markedKey_mem {key : String} {count : Nat} {keys : List String}
    (h : ∀ attempt < count, markedKey key attempt ∈ keys) : count ≤ keys.length := by
  let tried := (List.range count).map (markedKey key)
  have hnodup : tried.Nodup :=
    List.Pairwise.map _ (fun _ _ hne heq => hne (markedKey_injective heq)) List.nodup_range
  have hsubset : tried ⊆ keys := by
    intro marked hmem
    obtain ⟨attempt, hattempt, rfl⟩ := List.mem_map.1 hmem
    exact h attempt (List.mem_range.1 hattempt)
  calc
    count = tried.length := by rw [List.length_map, List.length_range]
    _ ≤ keys.length := hnodup.length_le_of_subset hsubset

/-! ## Holders -/

theorem holder?_eq_none_iff {index : PhraseIndex} {earlier : List Outcome}
    {ns phrase key : String} :
    holder? index earlier ns phrase key = none
      ↔ (∀ other, index.phraseForKey? ns key = some other → other = phrase)
        ∧ ∀ outcome, earlier.find? (fun outcome => outcome.ns == ns && outcome.key == key)
            = some outcome → outcome.phrase = phrase := by
  unfold holder?
  rw [Option.or_eq_none_iff, Option.filter_eq_none_iff, Option.filter_eq_none_iff]
  simp

/-- The keys of a namespace that the index or earlier outcomes hold. -/
def heldKeys (index : PhraseIndex) (earlier : List Outcome) (ns : String) : List String :=
  ((index.keys.namespaces.get? ns).map Dictionary.keys).getD []
    ++ (earlier.filter (·.ns == ns)).map (·.key)

theorem length_heldKeys (index : PhraseIndex) (earlier : List Outcome) (ns : String) :
    (heldKeys index earlier ns).length = heldBound index earlier ns := by
  unfold heldKeys heldBound PhraseIndex.keyCount
  rw [List.length_append, List.length_map, ← List.countP_eq_length_filter]
  congr 1
  cases index.keys.namespaces.get? ns with
  | none => rfl
  | some keys => exact List.length_map _

theorem mem_heldKeys_of_holder? {index : PhraseIndex} {earlier : List Outcome}
    {ns phrase key existing : String} (h : holder? index earlier ns phrase key = some existing) :
    key ∈ heldKeys index earlier ns := by
  unfold heldKeys
  rw [List.mem_append]
  rcases Option.or_eq_some_iff.1 h with hindex | ⟨-, hearlier⟩
  · have hphrase := (Option.filter_eq_some_iff.1 hindex).1
    unfold PhraseIndex.phraseForKey? at hphrase
    obtain ⟨keys, hkeys, hkey⟩ := Option.bind_eq_some_iff.1 hphrase
    left
    rw [hkeys]
    exact Dictionary.mem_keys.2 (Option.isSome_iff_exists.2 ⟨existing, hkey⟩)
  · obtain ⟨outcome, hfind, -⟩ := Option.map_eq_some_iff.1 (Option.filter_eq_some_iff.1 hearlier).1
    obtain ⟨hmem, hns, rfl⟩ := mem_of_find?_both hfind
    right
    exact List.mem_map_of_mem (List.mem_filter.2 ⟨hmem, by simp [hns]⟩)

/-- Among one more attempt than there are held keys, one is free. -/
theorem exists_free_attempt (index : PhraseIndex) (earlier : List Outcome) (candidate : Candidate) :
    ∃ attempt ∈ List.range (heldBound index earlier candidate.ns + 1),
      holder? index earlier candidate.ns candidate.phrase (markedKey candidate.key attempt)
        = none := by
  apply Classical.byContradiction
  intro hnone
  -- Otherwise all these marked keys, which are different, are among the held ones.
  have hheld : ∀ attempt < heldBound index earlier candidate.ns + 1,
      markedKey candidate.key attempt ∈ heldKeys index earlier candidate.ns := by
    intro attempt hlt
    cases hholder : holder? index earlier candidate.ns candidate.phrase
        (markedKey candidate.key attempt) with
    | none => exact absurd ⟨attempt, List.mem_range.2 hlt, hholder⟩ hnone
    | some existing => exact mem_heldKeys_of_holder? hholder
  have hlength := le_length_of_markedKey_mem hheld
  rw [length_heldKeys] at hlength
  omega

/-- The search for a free attempt finds one. -/
theorem find?_freeAttempt (index : PhraseIndex) (earlier : List Outcome) (candidate : Candidate) :
    ((List.range (heldBound index earlier candidate.ns + 1)).find? fun attempt =>
        (holder? index earlier candidate.ns candidate.phrase
          (markedKey candidate.key attempt)).isNone)
      = some (freeAttempt index earlier candidate) := by
  obtain ⟨attempt, hmem, hfree⟩ := exists_free_attempt index earlier candidate
  unfold freeAttempt
  dsimp only
  cases hfind : (List.range (heldBound index earlier candidate.ns + 1)).find? fun attempt =>
      (holder? index earlier candidate.ns candidate.phrase
        (markedKey candidate.key attempt)).isNone with
  | some found => rfl
  | none => exact absurd (Option.isNone_iff_eq_none.2 hfree) (List.find?_eq_none.1 hfind attempt hmem)

/-- **The marked key of the free attempt is held by no other phrase.** -/
theorem holder?_freeAttempt (index : PhraseIndex) (earlier : List Outcome)
    (candidate : Candidate) :
    holder? index earlier candidate.ns candidate.phrase
      (markedKey candidate.key (freeAttempt index earlier candidate)) = none := by
  have hfound := List.find?_some (find?_freeAttempt index earlier candidate)
  exact Option.isNone_iff_eq_none.1 hfound

/-- Every attempt before the free one is held. -/
theorem holder?_ne_none_of_lt_freeAttempt {index : PhraseIndex} {earlier : List Outcome}
    {candidate : Candidate} {attempt : Nat} (h : attempt < freeAttempt index earlier candidate) :
    holder? index earlier candidate.ns candidate.phrase (markedKey candidate.key attempt)
      ≠ none := by
  obtain ⟨-, -, hsooner⟩ :=
    List.find?_range_eq_some.1 (find?_freeAttempt index earlier candidate)
  intro hnone
  have hheld := hsooner attempt h
  rw [hnone] at hheld
  cases hheld

/-! ## Settling -/

/-- The phrase, namespace and value of a candidate with some key. -/
theorem settle_candidate (index : PhraseIndex) (earlier : List Outcome) (candidate : Candidate) :
    (settle index earlier candidate).1.phrase = candidate.phrase
      ∧ (settle index earlier candidate).1.ns = candidate.ns
      ∧ (settle index earlier candidate).1.value = candidate.value := by
  unfold settle
  dsimp only
  split <;> exact ⟨rfl, rfl, rfl⟩

/-- **Nothing else holds the key of a new outcome.** -/
theorem holder?_settle (index : PhraseIndex) (earlier : List Outcome) (candidate : Candidate) :
    holder? index earlier candidate.ns candidate.phrase (settle index earlier candidate).1.key
      = none := by
  unfold settle
  dsimp only
  split
  · assumption
  · exact holder?_freeAttempt index earlier candidate

/-- No key of an outcome is shared: the index gives it to no other phrase, and neither does
another outcome of its namespace. -/
structure Unshared (index : PhraseIndex) (outcomes : List Outcome) : Prop where
  index : ∀ outcome ∈ outcomes, ∀ phrase,
    index.phraseForKey? outcome.ns outcome.key = some phrase → phrase = outcome.phrase
  outcomes : ∀ first ∈ outcomes, ∀ second ∈ outcomes,
    first.ns = second.ns → first.key = second.key → first.phrase = second.phrase

theorem unshared_nil (index : PhraseIndex) : Unshared index [] :=
  ⟨fun _ h => absurd h List.not_mem_nil, fun _ h => absurd h List.not_mem_nil⟩

/-- One step keeps keys unshared. -/
theorem unshared_settle {index : PhraseIndex} {earlier : List Outcome} (candidate : Candidate)
    (h : Unshared index earlier) :
    Unshared index (earlier ++ [(settle index earlier candidate).1]) := by
  obtain ⟨hphrase, hns, -⟩ := settle_candidate index earlier candidate
  obtain ⟨hindex, hearlier⟩ := holder?_eq_none_iff.1 (holder?_settle index earlier candidate)
  have hnew : ∀ outcome ∈ earlier, outcome.ns = (settle index earlier candidate).1.ns →
      outcome.key = (settle index earlier candidate).1.key →
      outcome.phrase = (settle index earlier candidate).1.phrase := by
    intro outcome hmem hsame hkey
    rw [hns] at hsame
    obtain ⟨first, hfirst⟩ := Option.isSome_iff_exists.1
      (isSome_find?_both_iff.2 ⟨outcome, hmem, hsame, hkey⟩)
    obtain ⟨hfound, hfoundNs, hfoundKey⟩ := mem_of_find?_both hfirst
    rw [h.outcomes outcome hmem first hfound (hsame.trans hfoundNs.symm)
      (hkey.trans hfoundKey.symm), hphrase]
    exact hearlier first hfirst
  constructor
  · intro outcome hmem phrase hcarried
    rcases List.mem_append.1 hmem with hmem | hmem
    · exact h.index outcome hmem phrase hcarried
    · rw [List.mem_singleton.1 hmem] at hcarried ⊢
      rw [hns] at hcarried
      rw [hphrase]
      exact hindex phrase hcarried
  · intro first hfirst second hsecond hsame hkey
    rcases List.mem_append.1 hfirst with hfirst | hfirst
    · rcases List.mem_append.1 hsecond with hsecond | hsecond
      · exact h.outcomes first hfirst second hsecond hsame hkey
      · rw [List.mem_singleton.1 hsecond] at hsame hkey ⊢
        exact hnew first hfirst hsame hkey
    · rw [List.mem_singleton.1 hfirst] at hsame hkey ⊢
      rcases List.mem_append.1 hsecond with hsecond | hsecond
      · exact (hnew second hsecond hsame.symm hkey.symm).symm
      · rw [List.mem_singleton.1 hsecond]

/-! ## Assigning -/

theorem unshared_assignAfter {index : PhraseIndex} {earlier : List Outcome}
    (candidates : List Candidate) (h : Unshared index earlier) :
    Unshared index (earlier ++ (assignAfter index earlier candidates).1) := by
  induction candidates generalizing earlier with
  | nil => simpa [assignAfter] using h
  | cons candidate rest ih =>
    have hrest := ih (unshared_settle candidate h)
    rw [List.append_assoc] at hrest
    exact hrest

/-- **No two phrases share a key**, whatever the candidates are. -/
theorem unshared_assign (index : PhraseIndex) (candidates : List Candidate) :
    Unshared index (assign index candidates).1 :=
  unshared_assignAfter candidates (unshared_nil index)

/-- **Keys that are phrases need no mark**: if every key of the index stands for the phrase that it
carries, and the key of every candidate for its phrase, then so do the keys of the outcomes. -/
theorem unescape_key_of_mem_assignAfter {index : PhraseIndex} {earlier : List Outcome}
    (hindex : ∀ ns key phrase, index.phraseForKey? ns key = some phrase →
      Key.unescape key = phrase)
    (hearlier : ∀ outcome ∈ earlier, Key.unescape outcome.key = outcome.phrase)
    {candidates : List Candidate}
    (hcandidates : ∀ candidate ∈ candidates, Key.unescape candidate.key = candidate.phrase)
    {outcome : Outcome} (hmem : outcome ∈ (assignAfter index earlier candidates).1) :
    Key.unescape outcome.key = outcome.phrase := by
  induction candidates generalizing earlier with
  | nil => cases hmem
  | cons candidate rest ih =>
    have hcandidate := hcandidates candidate List.mem_cons_self
    have hfree : holder? index earlier candidate.ns candidate.phrase candidate.key = none := by
      rw [holder?_eq_none_iff]
      refine ⟨fun other hother => ?_, fun outcome hfind => ?_⟩
      · rw [← hindex _ _ _ hother, hcandidate]
      · obtain ⟨hfound, -, hkey⟩ := mem_of_find?_both hfind
        rw [← hearlier outcome hfound, hkey, hcandidate]
    have hsettle : Key.unescape (settle index earlier candidate).1.key
        = (settle index earlier candidate).1.phrase := by
      unfold settle
      dsimp only
      rw [hfree]
      exact hcandidate
    rcases List.mem_cons.1 hmem with rfl | hrest
    · exact hsettle
    · refine ih (fun earlier' hmem' => ?_) (fun other hother =>
        hcandidates other (List.mem_cons_of_mem _ hother)) hrest
      rcases List.mem_append.1 hmem' with hold | hnew
      · exact hearlier earlier' hold
      · rw [List.mem_singleton.1 hnew]
        exact hsettle

/-- The key of a new outcome is that of its candidate, or a marked form of it. -/
theorem key_settle (index : PhraseIndex) (earlier : List Outcome) (candidate : Candidate) :
    (settle index earlier candidate).1.key = candidate.key
      ∨ ∃ attempt, (settle index earlier candidate).1.key = markedKey candidate.key attempt := by
  unfold settle
  dsimp only
  split
  · exact .inl rfl
  · exact .inr ⟨_, rfl⟩

/-- **Every outcome comes from a candidate**, whose key it has in a plain or a marked form. -/
theorem exists_of_mem_assignAfter {index : PhraseIndex} {earlier : List Outcome}
    {candidates : List Candidate} {outcome : Outcome}
    (hmem : outcome ∈ (assignAfter index earlier candidates).1) :
    ∃ candidate ∈ candidates, outcome.phrase = candidate.phrase ∧ outcome.ns = candidate.ns
      ∧ (outcome.key = candidate.key
        ∨ ∃ attempt, outcome.key = markedKey candidate.key attempt) := by
  induction candidates generalizing earlier with
  | nil => cases hmem
  | cons candidate rest ih =>
    rcases List.mem_cons.1 hmem with rfl | hrest
    · obtain ⟨hphrase, hns, -⟩ := settle_candidate index earlier candidate
      exact ⟨candidate, List.mem_cons_self, hphrase, hns, key_settle index earlier candidate⟩
    · obtain ⟨other, hother, hparts⟩ := ih hrest
      exact ⟨other, List.mem_cons_of_mem _ hother, hparts⟩

/-- **The plain key of every candidate is held in the end**: the index gives it to another phrase,
or an outcome has it. -/
theorem isHeld_of_mem_assignAfter {index : PhraseIndex} {earlier : List Outcome}
    {candidates : List Candidate} {candidate : Candidate} (hmem : candidate ∈ candidates) :
    (∃ other, index.phraseForKey? candidate.ns candidate.key = some other
        ∧ other ≠ candidate.phrase)
      ∨ ∃ outcome ∈ earlier ++ (assignAfter index earlier candidates).1,
        outcome.ns = candidate.ns ∧ outcome.key = candidate.key := by
  induction candidates generalizing earlier with
  | nil => cases hmem
  | cons first rest ih =>
    rcases List.mem_cons.1 hmem with rfl | hrest
    · cases hholder : holder? index earlier candidate.ns candidate.phrase candidate.key with
      | none =>
        have hkey : (settle index earlier candidate).1.key = candidate.key := by
          unfold settle
          dsimp only
          rw [hholder]
        exact .inr ⟨_, List.mem_append_right _ List.mem_cons_self,
          (settle_candidate index earlier candidate).2.1, hkey⟩
      | some existing =>
        rcases Option.or_eq_some_iff.1 hholder with hindex | ⟨-, hearlier⟩
        · obtain ⟨hcarried, hne⟩ := Option.filter_eq_some_iff.1 hindex
          exact .inl ⟨existing, hcarried, bne_iff_ne.1 hne⟩
        · obtain ⟨outcome, hfind, -⟩ :=
            Option.map_eq_some_iff.1 (Option.filter_eq_some_iff.1 hearlier).1
          obtain ⟨hfound, hns, hkey⟩ := mem_of_find?_both hfind
          exact .inr ⟨outcome, List.mem_append_left _ hfound, hns, hkey⟩
    · rcases @ih (earlier ++ [(settle index earlier first).1]) hrest with
        hindex | ⟨outcome, houtcome, hparts⟩
      · exact .inl hindex
      · rw [List.append_assoc] at houtcome
        exact .inr ⟨outcome, houtcome, hparts⟩

/-- **There is one outcome for each candidate**, in order. -/
theorem map_candidate_assign (index : PhraseIndex) (candidates : List Candidate) :
    (assign index candidates).1.map (fun outcome => (outcome.phrase, outcome.ns, outcome.value))
      = candidates.map fun candidate => (candidate.phrase, candidate.ns, candidate.value) := by
  have hafter : ∀ earlier,
      (assignAfter index earlier candidates).1.map
          (fun outcome => (outcome.phrase, outcome.ns, outcome.value))
        = candidates.map fun candidate => (candidate.phrase, candidate.ns, candidate.value) := by
    induction candidates with
    | nil => intro earlier; rfl
    | cons candidate rest ih =>
      intro earlier
      obtain ⟨hphrase, hns, hvalue⟩ := settle_candidate index earlier candidate
      rw [List.map_cons, ← ih (earlier ++ [(settle index earlier candidate).1])]
      simp only [assignAfter, List.map_cons, hphrase, hns, hvalue]
  exact hafter []

end Phrasebook.Outcome
