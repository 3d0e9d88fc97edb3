import Phrasebook.Command.Run
import Phrasebook.Schedule

/-!
# Watching

A watch rewrites all sources once and then, on every tick, those that were written since. Phrases
without a key are translated on every tick, and the files they were found in are rewritten again.
Whatever was rewritten is written below a directory, if there is one, and its number told. Ticks
that rewrite nothing tell nothing.

Models the command `watch` (specification, section 11), tick by tick.
-/

namespace Phrasebook

/-- What a watch keeps. -/
structure Watch extends Desk where
  /-- The stamps of the source files when they were last looked at. -/
  stamps : Dictionary Nat
  /-- The files to be written and told of. -/
  touched : TextSet
  deriving DecidableEq

namespace Watch

open HostAction Desk

/-- A watch that has not begun. -/
def start (console : Console) : Watch := ⟨⟨console, Feed.empty⟩, Dictionary.empty, Dictionary.empty⟩

/-- Work at the desk of the watch. -/
def atDesk {α : Type} (action : HostAction Desk α) : HostAction Watch α := do
  let (session, watch) ← get
  let (found, session, desk) := action.runOn session watch.toDesk
  set (session, { watch with toDesk := desk })
  orThrow found

/-! ## Files -/

/-- Looks at source files: those with another stamp than before, and all their stamps now. -/
def lookAt (scope : SourceScope) (tree : FileTree) (before : Dictionary Nat)
    (files : List String) : List String × Dictionary Nat :=
  files.foldl (fun (changed, stamps) file =>
    match tree.stamp? (scope.resolve file) with
    | none => (changed, stamps)
    | some stamp =>
      (if before.get? file = some stamp then changed else changed ++ [file],
        stamps.insert file stamp))
    ([], before.filter fun file _ => files.contains file)

/-- The source files that were written since they were last looked at. -/
def changedFiles (project : Project) : HostAction Watch (List String) := do
  let files ← atDesk (work project.sourceFiles)
  let (changed, stamps) := lookAt project.scope (← session).files (← kept).stamps files
  keep fun watch => { watch with stamps }
  pure changed

/-- Remembers files to be written and told of. -/
def touch (files : List String) : HostAction Watch Unit :=
  keep fun watch => { watch with touched := files.foldl TextSet.add watch.touched }

/-- Writes and tells of the files to be written and told of. -/
def writeTouched (outDirectory? : Option String) : HostAction Watch Unit := do
  let watch ← kept
  let touched := watch.touched
  keep fun watch => { watch with touched := Dictionary.empty }
  if !touched.isEmpty then
    atDesk (complain fun report =>
      report.failures watch.console.verbose (watch.feed.failuresIn touched))
    match outDirectory? with
    | some directory =>
      atDesk (writeOutputs directory
        (watch.feed.outputs.toList.filter fun (file, _) => touched.contains file))
    | none => pure ()
    atDesk (tellSummary outDirectory?.isSome)

/-! ## Ticks -/

/-- Rewrites what was written since the last look. -/
def lookAround (project : Project) : HostAction Watch Unit := do
  let changed ← changedFiles project
  let tree := (← session).files
  atDesk (keep fun desk =>
    { desk with feed := desk.feed.retain fun file => tree.contains (project.scope.resolve file) })
  atDesk (feedFiles project .development changed)
  touch changed

/-- What a watch does around a flush. -/
def host (project : Project) (outDirectory? : Option String) : Host Watch where
  beforeFlush := lookAround project
  afterFlush flush := do
    atDesk tellNotices
    atDesk (tell fun report => report.flush flush)
    atDesk (feedFiles project .development flush.affected.keys)
    touch flush.affected.keys
    writeTouched outDirectory?

/-- The first look at all sources. -/
def begin (project : Project) (outDirectory? : Option String) : HostAction Watch Unit := do
  lookAround project
  writeTouched outDirectory?

/-- One tick. -/
def tick (project : Project) (translator : Translator) (outDirectory? : Option String) :
    HostAction Watch Unit := do
  let found ← attempt (Schedule.tick (host project outDirectory?) (project.flush translator))
  atDesk tellNotices
  orThrow found

end Watch

/-! ## Watches under way -/

/-- A watch under way. -/
structure Watching where
  project : Project
  translator : Translator
  outDirectory? : Option String
  session : Session
  watch : Watch

/-- A command that ended or goes on. -/
inductive Course where
  | ended (ran : Ran)
  | watching (watching : Watching)

namespace Watching

/-- The course of a watch after a step. -/
def step (watching : Watching) (action : HostAction Watch Unit) : Course :=
  match action.runOn watching.session watching.watch with
  | (.ok (), session, watch) => .watching { watching with session, watch }
  | (.error problem, session, watch) =>
    .ended ⟨.error (.work problem), session.files, watch.console⟩

/-- The watch of a project. -/
def start (options : CommonOptions) (outDirectory? : Option String)
    (surroundings : Surroundings) : Course :=
  match Opened.ofOptions options .development surroundings with
  | .error ran => .ended ran
  | .ok opened =>
    step ⟨opened.project, opened.translator, outDirectory?, opened.session,
      Watch.start opened.console⟩ (Watch.begin opened.project outDirectory?)

/-- The course of a watch after one tick. -/
def tick (watching : Watching) : Course :=
  watching.step (Watch.tick watching.project watching.translator watching.outDirectory?)

/-- The end of a watch that is stopped by its user. -/
def interrupt (watching : Watching) : Ran :=
  ⟨.ok .success, watching.session.files, watching.watch.console⟩

/-- A watch whose files were changed by others. -/
def edit (watching : Watching) (change : FileTree → FileTree) : Watching :=
  { watching with
    session := { watching.session with files := change watching.session.files } }

end Watching

end Phrasebook
