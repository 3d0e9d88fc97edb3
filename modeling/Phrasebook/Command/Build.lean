import Phrasebook.Command.Run

/-!
# Building

A build rewrites all sources and may write them below a directory. In production every phrase has
to have a key, or else nothing is written. In development the phrases without a key are translated
once, and the files they were found in are rewritten again.

Models the command `build` (specification, section 11).
-/

namespace Phrasebook.Build

open HostAction Desk

/-- What a production build comes to. -/
def judge : HostAction Desk ExitStatus := do
  let feed := (← kept).feed
  if !feed.failures.isEmpty then
    complain fun report => report.failures true feed.failures
    pure .error
  else if feed.unresolved.isEmpty then pure .success
  else if ← tellUnresolved .error then
    complain fun report => report.aborted feed.unresolved.length
    pure .error
  else pure .broken

/-- Translates the pending phrases and rewrites the files they were found in again. -/
def translate (project : Project) (translator : Translator) : HostAction Desk Unit := do
  match ← attempt (work (project.flush translator)) with
  | .ok flush => do
    tell fun report => report.flush flush
    feedFiles project .development flush.affected.keys
  | .error problem => if problem.isFatal then throw problem

/-- What a development build comes to. -/
def improve (project : Project) (translator : Translator) : HostAction Desk ExitStatus := do
  let desk ← kept
  complain fun report => report.failures desk.console.verbose desk.feed.failures
  if (← session).pending.size > 0 then translate project translator
  if (← kept).feed.unresolved.isEmpty then pure .success
  else if ← tellUnresolved .warning then pure .failure
  else pure .broken

/-- Writes the rewritten files, if there is a directory for them, and tells their number. -/
def finish (outDirectory? : Option String) : HostAction Desk Unit := do
  match outDirectory? with
  | some directory => writeOutputs directory (← kept).feed.outputs.toList
  | none => pure ()
  tellSummary outDirectory?.isSome

/-- Builds a project. -/
def action (project : Project) (mode : BuildMode) (translator : Translator)
    (outDirectory? : Option String) : HostAction Desk ExitStatus := do
  feedFiles project mode (← work project.sourceFiles)
  let status ←
    match mode with
    | .production => judge
    | .development => improve project translator
  if status.goesOn then finish outDirectory?
  pure status

/-- Builds the project that the options tell. -/
def run (options : CommonOptions) (mode : BuildMode) (outDirectory? : Option String)
    (surroundings : Surroundings) : Ran :=
  match Opened.ofOptions options mode surroundings with
  | .error ran => ran
  | .ok opened => opened.run (action opened.project mode opened.translator outDirectory?)

end Phrasebook.Build
