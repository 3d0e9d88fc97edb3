import Phrasebook.Locales
import Phrasebook.Merge
import Phrasebook.Survey

/-!
# Reconciling locale files

The two locale files of a project are merged with the outcomes of translations and the keys that a
survey found in use. After an incomplete survey no key is removed.

Models the resource reconciler (specification, section 4.4).
-/

namespace Phrasebook

/-- What a reconciliation did. -/
structure Reconciliation where
  sourceWritten : Bool
  targetWritten : Bool
  /-- The number of keys removed. -/
  pruned : Nat
  /-- Keys were to be removed, but the survey was incomplete. -/
  pruneSkipped : Bool
  deriving DecidableEq, Repr

namespace Reconciliation

/-- A locale file was written. -/
def isWritten (reconciliation : Reconciliation) : Bool :=
  reconciliation.sourceWritten || reconciliation.targetWritten

/-- The rule of a merge after a survey. -/
def ruleAfter (rule : Merge) (survey : Survey) : Merge :=
  { rule with prune := rule.prune && survey.isComplete }

/-- Merges the locale files with outcomes and a survey. -/
def run (locales : Locales) (rule : Merge) (outcomes : List Outcome) (survey : Survey) :
    FileAction Reconciliation := do
  let source ← locales.loadSource
  let target ← locales.loadTarget
  let merged := (ruleAfter rule survey).run outcomes survey.used source target
  let sourceWritten ← locales.save locales.sourceLanguage merged.source
  let targetWritten ← locales.save locales.targetLanguage merged.target
  pure ⟨sourceWritten, targetWritten, merged.pruned, rule.prune && !survey.isComplete⟩

end Reconciliation

end Phrasebook
