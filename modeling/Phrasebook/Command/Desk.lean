import Phrasebook.HostAction
import Phrasebook.Report

/-!
# Desks

A command tells about its work on two channels, and feeds files through the project. Both stand on
a desk, which is what the command keeps beside the session. What the session notes about the
included and ignored paths is told where details are.

Models what the commands have in common: feeding files, writing outputs below a directory, and
printing.
-/

namespace Phrasebook

/-- The two channels of a command. -/
structure Console where
  report : Report
  /-- Details are told. -/
  verbose : Bool
  /-- What was told about the work. -/
  output : String
  /-- What was told about trouble. -/
  errors : String
  deriving DecidableEq, Repr

namespace Console

/-- Nothing was told. -/
def start (colored verbose : Bool) : Console := ⟨⟨colored⟩, verbose, "", ""⟩

/-- Tells about the work. -/
def tell (console : Console) (text : Report → String) : Console :=
  { console with output := console.output ++ text console.report }

/-- Tells about trouble. -/
def complain (console : Console) (text : Report → String) : Console :=
  { console with errors := console.errors ++ text console.report }

/-- Tells about the work what was printed, and about trouble why printing broke off. -/
def print (console : Console) (printed : Printed) : Console :=
  let told := console.tell fun _ => printed.text
  if printed.brokeOff then told.complain fun _ => "Formatting argument out of range\n" else told

/-- Tells about notices, if details are told. -/
def notice (console : Console) (notices : List String) : Console :=
  if console.verbose then
    console.complain fun report => String.join (notices.map report.warning)
  else console

end Console

/-- What a command keeps. -/
structure Desk where
  console : Console
  feed : Feed
  deriving DecidableEq

namespace Desk

open HostAction

variable {α : Type}

/-! ## Telling -/

/-- Tells about the work. -/
def tell (text : Report → String) : HostAction Desk Unit :=
  keep fun desk => { desk with console := desk.console.tell text }

/-- Tells about trouble. -/
def complain (text : Report → String) : HostAction Desk Unit :=
  keep fun desk => { desk with console := desk.console.complain text }

/-- Tells about the notices of a session. -/
def tellNotices : HostAction Desk Unit :=
  modify fun (session, desk) =>
    ({ session with notices := [] },
      { desk with console := desk.console.notice session.notices })

/-- A step of work in the session, after which its notices are told. -/
def work (action : SessionAction α) : HostAction Desk α := do
  let found ← attempt (onSession action)
  tellNotices
  orThrow found

/-! ## Feeding -/

/-- Rewrites a file anew. -/
def feedFile (project : Project) (mode : BuildMode) (file : String) : HostAction Desk Unit := do
  let unit ← onSession (SessionAction.onFiles (project.scope.readUnit file))
  let found ← attempt (onSession (project.rewriteCollecting mode unit))
  let (feed, problem?) := (← kept).feed.take file found
  keep fun desk => { desk with feed }
  match problem? with
  | some problem => throw problem
  | none => pure ()

/-- Rewrites files anew, in their order. -/
def feedFiles (project : Project) (mode : BuildMode) : List String → HostAction Desk Unit
  | [] => pure ()
  | file :: rest => do
    feedFile project mode file
    feedFiles project mode rest

/-- Writes rewritten files below a directory. -/
def writeOutputs (directory : String) : List (String × Rewriting) → HostAction Desk Unit
  | [] => pure ()
  | (file, rewriting) :: rest => do
    onSession (SessionAction.onFiles (FileAction.writeBelow directory file rewriting.code))
    writeOutputs directory rest

/-- Tells about phrases without a key, and whether that did not break off. -/
def tellUnresolved (severity : Severity) : HostAction Desk Bool := do
  let desk ← kept
  let printed := desk.console.report.unresolved severity desk.feed.unresolved
  keep fun desk => { desk with console := desk.console.print printed }
  pure !printed.brokeOff

/-- Tells the numbers of the feed. -/
def tellSummary (written : Bool) : HostAction Desk Unit := do
  let summary := (← kept).feed.summary
  tell fun report => report.summary written summary

end Desk

end Phrasebook
