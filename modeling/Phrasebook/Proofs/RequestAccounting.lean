import Mathlib.Data.List.Dedup
import Mathlib.Data.List.Induction
import Phrasebook.Proofs.Problems

/-!
# Accounting for requests

A flush takes what is pending when it starts and then waits for translations. Meanwhile more phrases
may be asked for, other flushes may start and end, and anything else may happen to the session. So
requests and the two halves of flushes come in any order, and what a flush took is told by the order
alone: the requests between the start before its own and its own (`Traffic.window`).

Results:
* `Project.ended_flushPending`: the ways in which a flush can end.
* `Traffic.start_finish_iff`: a flush that ends as soon as it started is a whole flush.
* `Traffic.tracked_of_step`, `Traffic.tracked_of_run`: what is pending, and what each flush under way
  took, are the requests of their windows.
* `Traffic.accounts_of_run`: after any run, the report of a flush that ends accounts for every
  request of its window exactly once and for no others, and only a reconciliation can keep it from
  its report.
-/

namespace Phrasebook

/-! ## Requests -/

/-- A phrase of a namespace that a file asks for. -/
structure Request where
  phrase : String
  ns : String
  file : String
  deriving DecidableEq, Repr

namespace Pending

/-- What is pending after some requests. -/
def ofRequests (requests : List Request) : Pending :=
  requests.foldl (fun pending request => pending.add request.phrase request.ns request.file) empty

theorem ofRequests_append (requests : List Request) (request : Request) :
    ofRequests (requests ++ [request])
      = (ofRequests requests).add request.phrase request.ns request.file := by
  unfold ofRequests
  rw [List.foldl_append]
  rfl

theorem mem_phrases_add {pending : Pending} {phrase added ns file : String} :
    phrase ∈ (pending.add added ns file).phrases ↔ phrase ∈ pending.phrases ∨ phrase = added := by
  unfold phrases add
  rw [Dictionary.mem_keys, Dictionary.mem_keys, Dictionary.get?_modify]
  by_cases hphrase : added = phrase
  · simp [hphrase]
  · simp [hphrase, Ne.symm hphrase]

/-- The pending pairs are those of the requests. -/
theorem mem_pairs_ofRequests {requests : List Request} {phrase ns : String} :
    (phrase, ns) ∈ (ofRequests requests).pairs
      ↔ ∃ request ∈ requests, request.phrase = phrase ∧ request.ns = ns := by
  induction requests using List.reverseRecOn with
  | nil => simp [ofRequests, not_mem_pairs_empty]
  | append_singleton requests request ih =>
    rw [ofRequests_append, mem_pairs_add, ih]
    simp only [List.mem_append, List.mem_singleton, or_and_right, exists_or, exists_eq_left,
      eq_comm (a := phrase), eq_comm (a := ns)]

/-- The pending phrases are those of the requests. -/
theorem mem_phrases_ofRequests {requests : List Request} {phrase : String} :
    phrase ∈ (ofRequests requests).phrases ↔ phrase ∈ requests.map (·.phrase) := by
  induction requests using List.reverseRecOn with
  | nil => exact Iff.rfl
  | append_singleton requests request ih =>
    rw [ofRequests_append, mem_phrases_add, ih, List.map_append, List.mem_append]
    simp only [List.map_cons, List.map_nil, List.mem_singleton]

/-- Each phrase is counted once, however often it is asked for. -/
theorem length_phrases_ofRequests (requests : List Request) :
    (ofRequests requests).phrases.length = (requests.map (·.phrase)).dedup.length := by
  refine List.Perm.length_eq ((List.perm_ext_iff_of_nodup ?_ (List.nodup_dedup _)).2 fun phrase => ?_)
  · exact Dictionary.nodup_keys _
  · rw [mem_phrases_ofRequests, List.mem_dedup]

/-- The files are those of the requests. -/
theorem files_ofRequests (requests : List Request) :
    (ofRequests requests).files = TextSet.ofTexts (requests.map (·.file)) := by
  induction requests using List.reverseRecOn with
  | nil => rfl
  | append_singleton requests request ih =>
    rw [ofRequests_append, List.map_append]
    unfold TextSet.ofTexts at ih ⊢
    rw [List.foldl_append, ← ih]
    rfl

end Pending

/-! ## How a flush ends -/

namespace Translator

/-- The translator answers a phrase with a translation. -/
def translates (translator : Translator) (phrase : String) : Bool :=
  (translator phrase).result.isOk

theorem map_failuresOf (translator : Translator) (phrases : List String) :
    (translator.failuresOf phrases).map (·.phrase)
      = phrases.filter fun phrase => !translator.translates phrase := by
  unfold failuresOf translates
  induction phrases with
  | nil => rfl
  | cons phrase rest ih =>
    cases hresult : (translator phrase).result <;> simp [hresult, ih, Except.isOk, Except.toBool]

/-- A batch takes as long as its slowest phrase. -/
theorem lt_batchTime_iff {translator : Translator} {phrases : List String} {time : Nat} :
    time < translator.batchTime phrases
      ↔ ∃ phrase ∈ phrases, time < (translator phrase).delay := by
  have hafter : ∀ first, time < phrases.foldl
        (fun time phrase => max time (translator phrase).delay) first
      ↔ time < first ∨ ∃ phrase ∈ phrases, time < (translator phrase).delay := by
    induction phrases with
    | nil => simp
    | cons phrase rest ih =>
      intro first
      have hmax : time < max first (translator phrase).delay
          ↔ time < first ∨ time < (translator phrase).delay := by omega
      rw [List.foldl_cons, ih, hmax, or_assoc]
      simp only [List.mem_cons, exists_eq_or_imp]
  unfold batchTime
  rw [hafter 0]
  simp only [Nat.not_lt_zero, false_or]

end Translator

namespace Project

open SessionAction

variable {project : Project} {translator : Translator} {pending : Pending}
  {before after : Session}

/-- What a batch of pending phrases comes to, once translated. -/
def assigned (project : Project) (translator : Translator) (pending : Pending)
    (index : PhraseIndex) : List Outcome × List Conflict :=
  Outcome.assign index (project.candidatesOf translator pending)

theorem map_candidatesOf (project : Project) (translator : Translator) (pending : Pending) :
    (project.candidatesOf translator pending).map (fun candidate => (candidate.phrase, candidate.ns))
      = pending.pairs.filter fun (phrase, _) => translator.translates phrase := by
  unfold candidatesOf Translator.translates
  induction pending.pairs with
  | nil => rfl
  | cons pair rest ih =>
    rcases pair with ⟨phrase, ns⟩
    rw [List.filterMap_cons, List.filter_cons, ← ih]
    cases hresult : (translator phrase).result with
    | error failure => simp only [hresult, Except.isOk, Except.toBool, Bool.false_eq_true, if_false]
    | ok translation =>
      simp only [hresult, Except.isOk, Except.toBool, if_true, List.map_cons, Wording.candidate]

/-- **The pairs with an outcome** are the pending ones whose phrase is translated, in order. -/
theorem map_assigned (project : Project) (translator : Translator) (pending : Pending)
    (index : PhraseIndex) :
    (project.assigned translator pending index).1.map (fun outcome => (outcome.phrase, outcome.ns))
      = pending.pairs.filter fun (phrase, _) => translator.translates phrase := by
  have hmap := congrArg
    (List.map fun (triple : String × String × String) => (triple.1, triple.2.1))
    (Outcome.map_candidate_assign index (project.candidatesOf translator pending))
  rw [List.map_map, List.map_map] at hmap
  exact hmap.trans (project.map_candidatesOf translator pending)

theorem conflicts_assigned_eq_nil {index : PhraseIndex}
    (h : (project.assigned translator pending index).1 = []) :
    (project.assigned translator pending index).2 = [] := by
  unfold assigned Outcome.assign at h ⊢
  cases hcandidates : project.candidatesOf translator pending with
  | nil => rfl
  | cons candidate rest =>
    rw [hcandidates] at h
    cases h

/-- **The ways in which a flush of some pending phrases can end.** -/
inductive Ended (project : Project) (translator : Translator) (pending : Pending)
    (before : Session) : Except Problem Flush → Session → Prop
  /-- There was nothing to translate. -/
  | idle (hphrases : pending.phrases = []) :
      Ended project translator pending before
        (.ok ⟨0, [], [], [], pending.files, false, none⟩) before
  /-- The translations took too long. -/
  | late (hphrases : pending.phrases ≠ [])
      (htime : project.settings.timeout < translator.batchTime pending.phrases) :
      Ended project translator pending before
        (.ok ⟨pending.phrases.length, [], [], [], pending.files, true, none⟩)
        { before with now := before.now + project.settings.timeout }
  /-- No phrase was translated. -/
  | untranslated (hphrases : pending.phrases ≠ [])
      (htime : translator.batchTime pending.phrases ≤ project.settings.timeout)
      (hassigned : (project.assigned translator pending before.index).1 = []) :
      Ended project translator pending before
        (.ok ⟨pending.phrases.length, [], [], translator.failuresOf pending.phrases,
          pending.files, false, none⟩)
        { before with now := before.now + translator.batchTime pending.phrases }
  /-- The locale files took up the translations. -/
  | reconciled {reconciliation : Reconciliation} {after : Session}
      (hphrases : pending.phrases ≠ [])
      (htime : translator.batchTime pending.phrases ≤ project.settings.timeout)
      (hassigned : (project.assigned translator pending before.index).1 ≠ [])
      (hreconcile : (project.reconcile (project.assigned translator pending before.index).1).runOn
        { before with now := before.now + translator.batchTime pending.phrases }
          = (.ok reconciliation, after)) :
      Ended project translator pending before
        (.ok ⟨pending.phrases.length, (project.assigned translator pending before.index).1,
          (project.assigned translator pending before.index).2,
          translator.failuresOf pending.phrases, pending.files, false, some reconciliation⟩) after
  /-- There was a problem with a locale file. -/
  | broken {problem : Problem} {after : Session}
      (hphrases : pending.phrases ≠ [])
      (htime : translator.batchTime pending.phrases ≤ project.settings.timeout)
      (hassigned : (project.assigned translator pending before.index).1 ≠ [])
      (hreconcile : (project.reconcile (project.assigned translator pending before.index).1).runOn
        { before with now := before.now + translator.batchTime pending.phrases }
          = (.error problem, after)) :
      Ended project translator pending before (.error problem) after

theorem ended_flushPending (project : Project) (translator : Translator) (pending : Pending)
    (before : Session) :
    project.Ended translator pending before
      ((project.flushPending translator pending).runOn before).1
      ((project.flushPending translator pending).runOn before).2 := by
  unfold flushPending
  dsimp only
  by_cases hphrases : pending.phrases = []
  · rw [if_pos (List.isEmpty_iff.2 hphrases)]
    have hidle : project.Ended translator pending before _ _ := .idle hphrases
    rw [hphrases]
    exact hidle
  · rw [if_neg fun hempty => hphrases (List.isEmpty_iff.1 hempty)]
    by_cases htime : project.settings.timeout < translator.batchTime pending.phrases
    · rw [if_pos htime, runOn_bind_of_runOn (runOn_wait _ _)]
      exact .late hphrases htime
    · have hintime : translator.batchTime pending.phrases ≤ project.settings.timeout :=
        Nat.le_of_not_lt htime
      rw [if_neg htime, runOn_bind_of_runOn (runOn_wait _ _), runOn_bind_of_runOn (runOn_session _)]
      dsimp only
      by_cases hassigned : (project.assigned translator pending before.index).1 = []
      · have hended : project.Ended translator pending before _ _ :=
          .untranslated hphrases hintime hassigned
        rw [← conflicts_assigned_eq_nil hassigned, ← hassigned] at hended
        unfold assigned at hended hassigned
        rw [if_pos (List.isEmpty_iff.2 hassigned)]
        exact hended
      · rcases hreconcile : (project.reconcile
            (project.assigned translator pending before.index).1).runOn
          { before with now := before.now + translator.batchTime pending.phrases } with
          ⟨found, after⟩
        have hsome := runOn_map some
          (project.reconcile (project.assigned translator pending before.index).1)
          { before with now := before.now + translator.batchTime pending.phrases }
        rw [hreconcile] at hsome
        cases found with
        | ok reconciliation =>
          have hended : project.Ended translator pending before _ _ :=
            .reconciled hphrases hintime hassigned hreconcile
          unfold assigned at hended hassigned hsome
          rw [if_neg fun hempty => hassigned (List.isEmpty_iff.1 hempty),
            runOn_bind_of_runOn hsome]
          exact hended
        | error problem =>
          have hended : project.Ended translator pending before _ _ :=
            .broken hphrases hintime hassigned hreconcile
          unfold assigned at hassigned hsome
          rw [if_neg fun hempty => hassigned (List.isEmpty_iff.1 hempty),
            runOn_bind_of_runOn_error hsome]
          exact hended

/-- A flush is the flush of what it takes at its start. -/
theorem runOn_flush (project : Project) (translator : Translator) (before : Session) :
    (project.flush translator).runOn before
      = (project.flushPending translator before.pending).runOn (unpended before) := by
  unfold flush
  rw [runOn_bind_of_runOn (runOn_session before)]
  dsimp only
  rw [runOn_bind_of_runOn (runOn_modify _ before)]
  rfl

/-- Whatever is pending when a flush ends stays pending. -/
theorem Ended.pending_eq {found : Except Problem Flush}
    (h : project.Ended translator pending before found after) : after.pending = before.pending := by
  cases h with
  | idle => rfl
  | late => rfl
  | untranslated => rfl
  | reconciled _ _ _ hreconcile =>
    have hpending := pending_eq_of_reconcile hreconcile
    exact hpending
  | broken _ _ _ hreconcile =>
    have hpending := pending_eq_of_reconcile hreconcile
    exact hpending

/-- The affected files are those of what the flush took. -/
theorem Ended.affected_eq {flush : Flush}
    (h : project.Ended translator pending before (.ok flush) after) :
    flush.affected = pending.files := by
  cases h <;> rfl

theorem ended_of_flush {found : Except Problem Flush}
    (h : (project.flush translator).runOn before = (found, after)) :
    project.Ended translator before.pending (unpended before) found after := by
  have hended := project.ended_flushPending translator before.pending (unpended before)
  rw [← runOn_flush, h] at hended
  exact hended

theorem Ended.timedOut_iff {flush : Flush}
    (h : project.Ended translator pending before (.ok flush) after) :
    flush.timedOut = true ↔ project.settings.timeout < translator.batchTime pending.phrases := by
  cases h with
  | idle hphrases =>
    rw [hphrases]
    exact ⟨fun hlate => absurd hlate Bool.false_ne_true, fun hlate => absurd hlate (Nat.not_lt_zero _)⟩
  | late _ htime => exact iff_of_true rfl htime
  | untranslated _ htime => exact iff_of_false Bool.false_ne_true (Nat.not_lt_of_le htime)
  | reconciled _ htime => exact iff_of_false Bool.false_ne_true (Nat.not_lt_of_le htime)

/-- **A flush whose translations took too long** reports nothing, and only time passes. -/
theorem Ended.eq_of_timedOut {flush : Flush}
    (h : project.Ended translator pending before (.ok flush) after) (hlate : flush.timedOut = true) :
    flush.outcomes = [] ∧ flush.conflicts = [] ∧ flush.failures = [] ∧ flush.reconciliation = none
      ∧ after = { before with now := before.now + project.settings.timeout } := by
  cases h with
  | idle => cases hlate
  | late => exact ⟨rfl, rfl, rfl, rfl, rfl⟩
  | untranslated => cases hlate
  | reconciled => cases hlate

/-- **Only a reconciliation for some outcomes keeps a flush from its report**, by a fatal problem. -/
theorem Ended.exists_of_error {problem : Problem}
    (h : project.Ended translator pending before (.error problem) after) :
    problem.isFatal = true
      ∧ ∃ outcomes time, outcomes ≠ []
        ∧ (project.reconcile outcomes).runOn { before with now := before.now + time }
          = (.error problem, after) := by
  cases h with
  | broken _ _ hassigned hreconcile =>
    have hfatal := isFatal_of_reconcile hreconcile
    exact ⟨hfatal, _, _, hassigned, hreconcile⟩

/-- The problems of a flush are fatal. -/
theorem isFatal_of_flush {problem : Problem}
    (h : (project.flush translator).runOn before = (.error problem, after)) :
    problem.isFatal = true := (ended_of_flush h).exists_of_error.1

end Project

/-! ## Accounts -/

/-- A report accounts for some requests: each has an outcome or its phrase a failure, and nothing
else has. -/
structure Flush.Accounts (flush : Flush) (translator : Translator) (requests : List Request) :
    Prop where
  affected : flush.affected = TextSet.ofTexts (requests.map (·.file))
  requested : flush.requested = (requests.map (·.phrase)).dedup.length
  answered : flush.timedOut = false → ∀ request ∈ requests,
    (∃ translation, (translator request.phrase).result = .ok translation)
        ∧ (flush.outcomes.map fun outcome => (outcome.phrase, outcome.ns)).count
            (request.phrase, request.ns) = 1
        ∧ (flush.failures.map (·.phrase)).count request.phrase = 0
      ∨ (∃ failure, (translator request.phrase).result = .error failure)
        ∧ (flush.outcomes.map fun outcome => (outcome.phrase, outcome.ns)).count
            (request.phrase, request.ns) = 0
        ∧ (flush.failures.map (·.phrase)).count request.phrase = 1
  outcomes : ∀ outcome ∈ flush.outcomes,
    ∃ request ∈ requests, request.phrase = outcome.phrase ∧ request.ns = outcome.ns
  failures : ∀ failure ∈ flush.failures, ∃ request ∈ requests, request.phrase = failure.phrase

namespace Project

variable {project : Project} {translator : Translator} {requests : List Request}
  {before after : Session}

/-- **A translated phrase has one outcome for each namespace that asks for it**, and any other phrase
one failure. -/
theorem answered_of_mem (project : Project) (translator : Translator) (index : PhraseIndex)
    {request : Request} (hmem : request ∈ requests) :
    (∃ translation, (translator request.phrase).result = .ok translation)
        ∧ ((project.assigned translator (Pending.ofRequests requests) index).1.map
            fun outcome => (outcome.phrase, outcome.ns)).count (request.phrase, request.ns) = 1
        ∧ ((translator.failuresOf (Pending.ofRequests requests).phrases).map (·.phrase)).count
            request.phrase = 0
      ∨ (∃ failure, (translator request.phrase).result = .error failure)
        ∧ ((project.assigned translator (Pending.ofRequests requests) index).1.map
            fun outcome => (outcome.phrase, outcome.ns)).count (request.phrase, request.ns) = 0
        ∧ ((translator.failuresOf (Pending.ofRequests requests).phrases).map (·.phrase)).count
            request.phrase = 1 := by
  rw [map_assigned, Translator.map_failuresOf]
  have hpair : (request.phrase, request.ns) ∈ (Pending.ofRequests requests).pairs :=
    Pending.mem_pairs_ofRequests.2 ⟨request, hmem, rfl, rfl⟩
  have hphrase : request.phrase ∈ (Pending.ofRequests requests).phrases :=
    Pending.mem_phrases_ofRequests.2 (List.mem_map_of_mem hmem)
  have hpairs := (Pending.ofRequests requests).nodup_pairs
  have hphrases : (Pending.ofRequests requests).phrases.Nodup := Dictionary.nodup_keys _
  cases hresult : (translator request.phrase).result with
  | ok translation =>
    have htranslates : translator.translates request.phrase = true := by
      unfold Translator.translates
      rw [hresult]
      rfl
    refine .inl ⟨⟨translation, rfl⟩, ?_, ?_⟩
    · exact List.count_eq_one_of_mem (hpairs.filter _) (List.mem_filter.2 ⟨hpair, htranslates⟩)
    · refine List.count_eq_zero_of_not_mem fun hfailed => ?_
      simp [htranslates] at hfailed
  | error failure =>
    have hfails : translator.translates request.phrase = false := by
      unfold Translator.translates
      rw [hresult]
      rfl
    refine .inr ⟨⟨failure, rfl⟩, ?_, ?_⟩
    · refine List.count_eq_zero_of_not_mem fun htranslated => ?_
      simp [hfails] at htranslated
    · exact List.count_eq_one_of_mem (hphrases.filter _)
        (List.mem_filter.2 ⟨hphrase, by rw [hfails]; rfl⟩)

theorem exists_of_mem_assigned {index : PhraseIndex} {outcome : Outcome}
    (h : outcome ∈ (project.assigned translator (Pending.ofRequests requests) index).1) :
    ∃ request ∈ requests, request.phrase = outcome.phrase ∧ request.ns = outcome.ns := by
  have hpair := List.mem_map_of_mem (f := fun outcome : Outcome => (outcome.phrase, outcome.ns)) h
  rw [map_assigned] at hpair
  exact Pending.mem_pairs_ofRequests.1 (List.mem_filter.1 hpair).1

theorem exists_of_mem_failuresOf {failure : PhraseFailure}
    (h : failure ∈ translator.failuresOf (Pending.ofRequests requests).phrases) :
    ∃ request ∈ requests, request.phrase = failure.phrase := by
  have hphrase := List.mem_map_of_mem (f := PhraseFailure.phrase) h
  rw [Translator.map_failuresOf] at hphrase
  exact List.mem_map.1 (Pending.mem_phrases_ofRequests.1 (List.mem_filter.1 hphrase).1)

/-- **The report of a flush accounts for the requests that it took.** -/
theorem accounts_of_ended {flush : Flush}
    (h : project.Ended translator (Pending.ofRequests requests) before (.ok flush) after) :
    flush.Accounts translator requests := by
  have haffected := Pending.files_ofRequests requests
  have hrequested := Pending.length_phrases_ofRequests requests
  cases h with
  | idle hphrases =>
    rw [hphrases] at hrequested
    refine ⟨haffected, hrequested, fun _ request hmem => ?_, fun _ hmem => absurd hmem List.not_mem_nil,
      fun _ hmem => absurd hmem List.not_mem_nil⟩
    have hphrase := Pending.mem_phrases_ofRequests.2 (List.mem_map_of_mem (f := Request.phrase) hmem)
    rw [hphrases] at hphrase
    cases hphrase
  | late =>
    exact ⟨haffected, hrequested, fun hintime => absurd hintime (by simp),
      fun _ hmem => absurd hmem List.not_mem_nil, fun _ hmem => absurd hmem List.not_mem_nil⟩
  | untranslated _ _ hassigned =>
    refine ⟨haffected, hrequested, fun _ request hmem => ?_, fun _ hmem => absurd hmem List.not_mem_nil,
      fun _ hmem => exists_of_mem_failuresOf hmem⟩
    have hanswered := project.answered_of_mem translator before.index hmem
    rw [hassigned] at hanswered
    exact hanswered
  | reconciled =>
    exact ⟨haffected, hrequested, fun _ _ hmem => project.answered_of_mem translator before.index hmem,
      fun _ hmem => exists_of_mem_assigned hmem, fun _ hmem => exists_of_mem_failuresOf hmem⟩

end Project

/-! ## Requests and flushes in any order -/

/-- A session with flushes under way. -/
structure Traffic where
  session : Session
  /-- The number of flushes that were started. -/
  started : Nat
  /-- The flushes that did not end yet, by their numbers, with what they took. -/
  underway : List (Nat × Pending)

namespace Traffic

/-- What happens in a session with flushes under way. -/
inductive Event where
  | request (request : Request)
  /-- A flush starts. -/
  | start
  /-- A flush ends, with the answers of a translator. -/
  | finish (number : Nat) (translator : Translator)
  /-- Anything else that leaves what is pending alone. -/
  | other

/-- The request of an event. -/
def Event.request? : Event → Option Request
  | .request asked => some asked
  | _ => none

/-- A flush starts. -/
def Event.isStart : Event → Bool
  | .start => true
  | _ => false

/-- The number of flushes that were started. -/
def starts (events : List Event) : Nat := events.countP Event.isStart

/-- The requests between the start of a flush and the start before it, or those after the last
start. Flushes are numbered from zero. -/
def window : Nat → List Event → List Request
  | _, [] => []
  | 0, .start :: _ => []
  | number + 1, .start :: rest => window number rest
  | 0, event :: rest => event.request?.toList ++ window 0 rest
  | number + 1, _ :: rest => window (number + 1) rest

/-- What an event does. -/
inductive Step (project : Project) : Traffic → Event → Traffic → Prop
  | request (before : Traffic) (request : Request) {session : Session}
      (h : (Project.enqueue request.phrase request.ns request.file).runOn before.session
        = (.ok (), session)) :
      Step project before (.request request) { before with session }
  | start (before : Traffic) :
      Step project before .start
        { session := Project.unpended before.session
          started := before.started + 1
          underway := (before.started, before.session.pending) :: before.underway }
  | finish {before : Traffic} {number : Nat} {pending : Pending}
      (hmem : (number, pending) ∈ before.underway) (translator : Translator)
      {found : Except Problem Flush} {session : Session}
      (h : (project.flushPending translator pending).runOn before.session = (found, session)) :
      Step project before (.finish number translator)
        { before with
          session
          underway := before.underway.filter fun flush => flush.1 != number }
  | other {before : Traffic} {session : Session} (h : session.pending = before.session.pending) :
      Step project before .other { before with session }

/-- Events one after the other, from a session without flushes under way. -/
inductive Run (project : Project) (start : Session) : List Event → Traffic → Prop
  | refl : Run project start [] ⟨start, 0, []⟩
  | step {events : List Event} {event : Event} {before after : Traffic}
      (run : Run project start events before) (h : Step project before event after) :
      Run project start (events ++ [event]) after

/-- **A flush that ends as soon as it started is a whole flush**, `Project.flush`. -/
theorem start_finish_iff {project : Project} {translator : Translator} {before after : Traffic}
    (hnumbers : ∀ flush ∈ before.underway, flush.1 < before.started) :
    (∃ amid, Step project before .start amid
        ∧ Step project amid (.finish before.started translator) after)
      ↔ ∃ found session, (project.flush translator).runOn before.session = (found, session)
        ∧ after = { before with session, started := before.started + 1 } := by
  have hothers : ∀ taken, ((before.started, taken) :: before.underway).filter
      (fun flush => flush.1 != before.started) = before.underway := by
    intro taken
    rw [List.filter_cons_of_neg (by simp), List.filter_eq_self]
    intro flush hmem
    simpa using Nat.ne_of_lt (hnumbers flush hmem)
  constructor
  · rintro ⟨_, ⟨⟩, hfinish⟩
    cases hfinish with
    | @finish _ pending hmem _ found session h =>
      -- The flush with the new number is the one that just started.
      rcases List.mem_cons.1 hmem with heq | hmem
      · obtain rfl : pending = before.session.pending := (Prod.mk.inj heq).2
        refine ⟨found, session, (Project.runOn_flush _ _ _).trans h, ?_⟩
        rw [hothers]
      · exact absurd (hnumbers _ hmem) (Nat.lt_irrefl _)
  · rintro ⟨found, session, h, rfl⟩
    rw [Project.runOn_flush] at h
    refine ⟨_, .start before, ?_⟩
    let amid : Traffic := ⟨Project.unpended before.session, before.started + 1,
      (before.started, before.session.pending) :: before.underway⟩
    have hfinish : Step project amid (.finish before.started translator) _ :=
      .finish List.mem_cons_self translator h
    rwa [hothers] at hfinish

theorem starts_append (events : List Event) (event : Event) :
    starts (events ++ [event]) = starts events + starts [event] := List.countP_append

theorem starts_cons (event : Event) (events : List Event) :
    starts (event :: events) = starts events + if event.isStart then 1 else 0 := List.countP_cons

/-- An event after others adds to the window that is open. -/
theorem window_append (number : Nat) (events : List Event) (event : Event) :
    window number (events ++ [event])
      = window number events
        ++ if number = starts events then event.request?.toList else [] := by
  induction events generalizing number with
  | nil => cases number <;> cases event <;> simp [window, starts, Event.request?]
  | cons head rest ih =>
    rw [starts_cons, List.cons_append]
    cases head <;> cases number <;> simp [window, ih, Event.isStart, Event.request?]

/-- A window is empty until it opens. -/
theorem window_eq_nil {number : Nat} {events : List Event} (h : starts events < number) :
    window number events = [] := by
  induction events generalizing number with
  | nil => cases number <;> rfl
  | cons head rest ih =>
    rw [starts_cons] at h
    cases number with
    | zero => exact absurd h (Nat.not_lt_zero _)
    | succ number =>
      cases head with
      | start => exact ih (Nat.lt_of_succ_lt_succ h)
      | request => exact ih h
      | finish => exact ih h
      | other => exact ih h

/-! ## What every event keeps -/

/-- What is pending, and what each flush under way took, are the requests of their windows. -/
structure Tracked (events : List Event) (traffic : Traffic) : Prop where
  started : traffic.started = starts events
  pending : traffic.session.pending = Pending.ofRequests (window (starts events) events)
  underway : ∀ {number pending}, (number, pending) ∈ traffic.underway →
    number < starts events ∧ pending = Pending.ofRequests (window number events)

variable {project : Project} {start : Session} {events : List Event} {before after : Traffic}

/-- Windows stay as they are once another flush was started. -/
theorem Tracked.underway_append (htracked : Tracked events before) (event : Event) {number : Nat}
    {pending : Pending} (hmem : (number, pending) ∈ before.underway) :
    number < starts (events ++ [event])
      ∧ pending = Pending.ofRequests (window number (events ++ [event])) := by
  obtain ⟨hnumber, rfl⟩ := htracked.underway hmem
  rw [starts_append, window_append, if_neg (Nat.ne_of_lt hnumber), List.append_nil]
  exact ⟨Nat.lt_add_right _ hnumber, rfl⟩

/-- An event that neither asks for a phrase nor starts a flush keeps account. -/
theorem tracked_of_silent {event : Event} (hstart : event.isStart = false)
    (hrequest : event.request? = none) (htracked : Tracked events before)
    (hstarted : after.started = before.started)
    (hpending : after.session.pending = before.session.pending)
    (hunderway : after.underway ⊆ before.underway) : Tracked (events ++ [event]) after := by
  have hstarts : starts (events ++ [event]) = starts events := by
    rw [starts_append, starts_cons, hstart]
    rfl
  refine ⟨?_, ?_, fun hmem => htracked.underway_append event (hunderway hmem)⟩
  · rw [hstarts, hstarted, htracked.started]
  · rw [hstarts, window_append, if_pos rfl, hrequest, hpending, htracked.pending]
    exact congrArg Pending.ofRequests (List.append_nil _).symm

/-- **Every event keeps account.** -/
theorem tracked_of_step {event : Event} (h : Step project before event after)
    (htracked : Tracked events before) : Tracked (events ++ [event]) after := by
  cases h with
  | request request hrun =>
    cases hrun
    refine ⟨?_, ?_, htracked.underway_append _⟩
    · rw [starts_append]
      exact htracked.started
    · show before.session.pending.add _ _ _ = _
      rw [starts_append, show starts [Event.request request] = 0 from rfl, Nat.add_zero,
        window_append, if_pos rfl, show (Event.request request).request?.toList = [request] from rfl,
        Pending.ofRequests_append, ← htracked.pending]
  | start =>
    have hstarts : starts (events ++ [.start]) = starts events + 1 := starts_append events .start
    refine ⟨?_, ?_, fun {number pending} hmem => ?_⟩
    · rw [hstarts, ← htracked.started]
    · rw [hstarts, window_append, window_eq_nil (Nat.lt_succ_self _), if_neg (Nat.succ_ne_self _)]
      rfl
    · rcases List.mem_cons.1 hmem with hnew | hold
      · cases hnew
        rw [htracked.started, window_append, if_pos rfl, hstarts,
          show Event.start.request?.toList = [] from rfl, List.append_nil]
        exact ⟨Nat.lt_succ_self _, htracked.pending⟩
      · exact htracked.underway_append _ hold
  | @finish number pending _ translator found session hrun =>
    have hended := project.ended_flushPending translator pending before.session
    rw [hrun] at hended
    exact tracked_of_silent rfl rfl htracked rfl hended.pending_eq
      fun _ hmem => (List.mem_filter.1 hmem).1
  | other hpending => exact tracked_of_silent rfl rfl htracked rfl hpending fun _ => id

/-- **Any run keeps account.** -/
theorem tracked_of_run (fresh : start.pending = Pending.empty)
    (run : Run project start events before) : Tracked events before := by
  induction run with
  | refl => exact ⟨rfl, fresh, fun hmem => absurd hmem List.not_mem_nil⟩
  | step _ hstep ih => exact tracked_of_step hstep ih

/-- **Every request is accounted for once.** Requests, starts and ends of flushes and anything else
come in any order, and now a flush that is under way ends. It took the pairs and files of the requests
between the start before its own and its own, and what was asked for since the last start is still
pending when it has ended. Its report accounts for what it took. If the translations took too long,
the report holds nothing else and only time has passed. There is no report exactly if a
reconciliation for some outcomes ends with a problem; that problem is fatal, so it is neither a
failed translation nor a timeout. -/
theorem accounts_of_run (fresh : start.pending = Pending.empty)
    (run : Run project start events before) {number : Nat} {pending : Pending}
    (hmem : (number, pending) ∈ before.underway) (translator : Translator) :
    (∀ phrase ns, (phrase, ns) ∈ pending.pairs
        ↔ ∃ request ∈ window number events, request.phrase = phrase ∧ request.ns = ns)
      ∧ pending.files = TextSet.ofTexts ((window number events).map (·.file))
      ∧ ∃ found after, (project.flushPending translator pending).runOn before.session = (found, after)
        ∧ after.pending = Pending.ofRequests (window (starts events) events)
        ∧ match found with
          | .ok flush =>
            flush.Accounts translator (window number events)
              ∧ (flush.timedOut = true
                ↔ ∃ request ∈ window number events,
                    project.settings.timeout < (translator request.phrase).delay)
              ∧ (flush.timedOut = true →
                flush.outcomes = [] ∧ flush.conflicts = [] ∧ flush.failures = []
                  ∧ flush.reconciliation = none
                  ∧ after = { before.session with
                      now := before.session.now + project.settings.timeout })
          | .error problem =>
            problem.isFatal = true
              ∧ ∃ outcomes time, outcomes ≠ []
                ∧ (project.reconcile outcomes).runOn
                    { before.session with now := before.session.now + time }
                  = (.error problem, after) := by
  obtain ⟨-, hpending, hunderway⟩ := tracked_of_run fresh run
  obtain ⟨-, rfl⟩ := hunderway hmem
  have hended := project.ended_flushPending translator
    (Pending.ofRequests (window number events)) before.session
  rcases hrun : (project.flushPending translator
    (Pending.ofRequests (window number events))).runOn before.session with ⟨found, after⟩
  rw [hrun] at hended
  refine ⟨fun phrase ns => Pending.mem_pairs_ofRequests, Pending.files_ofRequests _, found, after,
    rfl, hended.pending_eq.trans hpending, ?_⟩
  cases found with
  | error problem => exact hended.exists_of_error
  | ok flush =>
    refine ⟨Project.accounts_of_ended hended, ?_, hended.eq_of_timedOut⟩
    rw [hended.timedOut_iff, Translator.lt_batchTime_iff]
    simp only [Pending.mem_phrases_ofRequests, List.mem_map, exists_exists_and_eq_and]

/-- The small project asks for one phrase in two files, starts a flush and asks for another one. -/
def smallEvents : List Event :=
  [.request ⟨"你好", "default", "src/app.ts"⟩, .request ⟨"你好", "default", "src/menu.ts"⟩, .start,
    .request ⟨"再见", "default", "src/app.ts"⟩]

/-- The small project with that flush under way. -/
def smallUnderway : Traffic where
  session := { Project.smallStart [] with pending := Pending.ofRequests (window 1 smallEvents) }
  started := 1
  underway := [(0, Pending.ofRequests (window 0 smallEvents))]

/-- The flush of the small project ends: it accounts for the phrase that was asked for twice, and the
later one is still pending. -/
theorem accounts_small_of_run :
    ∃ flush after,
      (Project.small.flushPending Project.smallTranslator
          (Pending.ofRequests (window 0 smallEvents))).runOn smallUnderway.session
        = (.ok flush, after)
      ∧ after.pending = Pending.ofRequests [⟨"再见", "default", "src/app.ts"⟩]
      ∧ flush.Accounts Project.smallTranslator
        [⟨"你好", "default", "src/app.ts"⟩, ⟨"你好", "default", "src/menu.ts"⟩]
      ∧ flush.requested = 1 := by
  have run : Run Project.small (Project.smallStart []) smallEvents smallUnderway :=
    .step (.step (.step (.step .refl (.request _ ⟨"你好", "default", "src/app.ts"⟩ rfl))
      (.request _ ⟨"你好", "default", "src/menu.ts"⟩ rfl)) (.start _))
      (.request _ ⟨"再见", "default", "src/app.ts"⟩ rfl)
  have hunderway : (0, Pending.ofRequests (window 0 smallEvents)) ∈ smallUnderway.underway :=
    List.mem_cons_self
  obtain ⟨-, -, found, after, hrun, hpending, haccounts⟩ :=
    accounts_of_run rfl run hunderway Project.smallTranslator
  obtain ⟨flush, hflush⟩ := SessionAction.exists_runOn_eq_ok
    (Project.small.flushPending Project.smallTranslator (Pending.ofRequests (window 0 smallEvents)))
    smallUnderway.session (by decide +kernel)
  rw [hflush] at hrun
  cases hrun
  exact ⟨flush, _, hflush, hpending, haccounts.1, haccounts.1.requested.trans (by decide +kernel)⟩

end Traffic

end Phrasebook
