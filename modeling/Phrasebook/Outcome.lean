import Phrasebook.PhraseIndex
import Phrasebook.Text.LowerCase

/-!
# Translations and their keys

A translated phrase becomes a candidate with a value and a key. `Outcome.assign` gives each
candidate its final key: a key that another phrase of the namespace holds is marked with a suffix,
and numbered from the second attempt on, until nothing else holds it.

Models steps 5 and 6 of a flush (specification, section 4.3): post-processing and the detection of
conflicts.
-/

namespace Phrasebook

/-- A translation whose key is not settled. -/
structure Candidate where
  phrase : String
  ns : String
  key : String
  value : String
  deriving DecidableEq, Repr

/-- A translation with its key. -/
structure Outcome where
  phrase : String
  ns : String
  key : String
  value : String
  /-- The key is marked, since another phrase holds the plain one. -/
  conflict : Bool
  deriving DecidableEq, Repr

/-- Two phrases of a namespace with one plain key. -/
structure Conflict where
  ns : String
  key : String
  phrase : String
  existing : String
  deriving DecidableEq, Repr

/-! ## Candidates -/

/-- How translations become values and keys. -/
structure Wording where
  /-- Values begin with a lower-case letter. -/
  lowercaseFirst : Bool
  keyLanguage : KeyLanguage
  deriving DecidableEq, Repr

namespace Wording

/-- The value of a translation. -/
def value (wording : Wording) (translation : String) : String :=
  if wording.lowercaseFirst then Text.lowerCaseFirst translation else translation

/-- The plain key of a phrase with a value. -/
def key (wording : Wording) (phrase value : String) : String :=
  match wording.keyLanguage with
  | .target => Key.escape value
  | .source => Key.escape phrase

/-- The candidate of a translated phrase. -/
def candidate (wording : Wording) (phrase ns translation : String) : Candidate :=
  let value := wording.value translation
  ⟨phrase, ns, wording.key phrase value, value⟩

end Wording

/-! ## Keys -/

namespace Outcome

/-- What marks a key that another phrase holds. -/
def conflictSuffix : String := "__CONFLICT__"

/-- The marked key of an attempt. Attempts count from zero, and their numbers from two. -/
def markedKey (key : String) : Nat → String
  | 0 => key ++ conflictSuffix
  | attempt + 1 => key ++ conflictSuffix ++ toString (attempt + 2)

/-- The phrase other than `phrase` that holds a key, in the index or among earlier outcomes. -/
def holder? (index : PhraseIndex) (earlier : List Outcome) (ns phrase key : String) :
    Option String :=
  ((index.phraseForKey? ns key).filter (· != phrase)).or
    (((earlier.find? fun outcome => outcome.ns == ns && outcome.key == key).map
      (·.phrase)).filter (· != phrase))

/-- The number of keys of a namespace that the index or earlier outcomes hold, at most. -/
def heldBound (index : PhraseIndex) (earlier : List Outcome) (ns : String) : Nat :=
  index.keyCount ns + earlier.countP (·.ns == ns)

/-- The first attempt whose marked key nothing holds. One more attempt than there are held keys
is enough. -/
def freeAttempt (index : PhraseIndex) (earlier : List Outcome) (candidate : Candidate) : Nat :=
  let bound := heldBound index earlier candidate.ns
  ((List.range (bound + 1)).find? fun attempt =>
    (holder? index earlier candidate.ns candidate.phrase
      (markedKey candidate.key attempt)).isNone).getD bound

/-- The outcome of a candidate after earlier ones, and its conflict. -/
def settle (index : PhraseIndex) (earlier : List Outcome) (candidate : Candidate) :
    Outcome × Option Conflict :=
  let ⟨phrase, ns, key, value⟩ := candidate
  match holder? index earlier ns phrase key with
  | none => (⟨phrase, ns, key, value, false⟩, none)
  | some existing =>
    (⟨phrase, ns, markedKey key (freeAttempt index earlier candidate), value, true⟩,
      some ⟨ns, key, phrase, existing⟩)

/-- The outcomes and conflicts of candidates in order, after earlier outcomes. -/
def assignAfter (index : PhraseIndex) (earlier : List Outcome) :
    List Candidate → List Outcome × List Conflict
  | [] => ([], [])
  | candidate :: rest =>
    let (outcome, conflict?) := settle index earlier candidate
    let (outcomes, conflicts) := assignAfter index (earlier ++ [outcome]) rest
    (outcome :: outcomes, conflict?.toList ++ conflicts)

/-- The outcomes and conflicts of candidates in order. -/
def assign (index : PhraseIndex) (candidates : List Candidate) : List Outcome × List Conflict :=
  assignAfter index [] candidates

end Outcome

end Phrasebook
