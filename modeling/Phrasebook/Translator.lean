import Phrasebook.Problem

/-!
# Translators

A translator answers each phrase with a translation or a failure, after a time of its own.

Models the translation capability (specification, section 6).
-/

namespace Phrasebook

/-- The answer of a translator. -/
structure Answer where
  /-- How long it takes, in milliseconds. -/
  delay : Nat
  result : Except TranslationFailure String

/-- What translates a phrase. -/
abbrev Translator := String → Answer

/-- A phrase that was not translated, and why. -/
structure PhraseFailure where
  phrase : String
  failure : TranslationFailure
  deriving DecidableEq, Repr

namespace Translator

/-- The phrases that are not translated. -/
def failuresOf (translator : Translator) (phrases : List String) : List PhraseFailure :=
  phrases.filterMap fun phrase =>
    match (translator phrase).result with
    | .ok _ => none
    | .error failure => some ⟨phrase, failure⟩

/-- How long a batch of phrases takes, all of which are asked for at once. -/
def batchTime (translator : Translator) (phrases : List String) : Nat :=
  phrases.foldl (fun time phrase => max time (translator phrase).delay) 0

end Translator

end Phrasebook
