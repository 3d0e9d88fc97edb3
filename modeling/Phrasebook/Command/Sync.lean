import Phrasebook.Command.Run

/-!
# Bringing locale files in line

All sources are searched, their phrases without a key are translated, and the locale files take up
the translations and lose the keys that are not in use.

Models the command `sync` (specification, section 11).
-/

namespace Phrasebook.Sync

open HostAction Desk

/-- Nothing is left to do after a flush. -/
def isClean (feed : Feed) (flush : Flush) : Bool :=
  feed.unresolved.isEmpty && feed.failures.isEmpty && flush.failures.isEmpty && !flush.timedOut

/-- The reconciliation of a flush, or one without translations if the flush had none. -/
def reconciliationAfter (project : Project) (flush : Flush) :
    HostAction Desk Reconciliation := do
  match flush.reconciliation with
  | some reconciliation => pure reconciliation
  | none => work (project.reconcile [])

/-- Brings the locale files of a project in line. -/
def action (project : Project) (translator : Translator) : HostAction Desk ExitStatus := do
  feedFiles project .development (← work project.sourceFiles)
  let desk ← kept
  complain fun report => report.failures desk.console.verbose desk.feed.failures
  let flush ← work (project.flush translator)
  tell fun report => report.flush flush
  let reconciliation ← reconciliationAfter project flush
  tell fun report => report.reconciliation reconciliation
  feedFiles project .development flush.affected.keys
  if ← tellUnresolved .warning then
    pure (if isClean (← kept).feed flush then .success else .failure)
  else pure .broken

/-- Brings the locale files of the project that the options tell in line. -/
def run (options : CommonOptions) (surroundings : Surroundings) : Ran :=
  match Opened.ofOptions options .development surroundings with
  | .error ran => ran
  | .ok opened => opened.run (action opened.project opened.translator)

end Phrasebook.Sync
