import Phrasebook.Command.Arguments
import Phrasebook.Command.Desk
import Phrasebook.Settings.Search

/-!
# Runs of commands

A command runs in surroundings: files, environment variables, a way to reach services, and a
terminal with colours or without. It ends with a status or a problem, and may have changed files
and told something in either case.

Models the surroundings of the commands, the loading of their settings, and their exit statuses
(specification, sections 7 and 11).
-/

namespace Phrasebook

/-- Where a command runs. -/
structure Surroundings where
  files : FileTree
  environment : Environment
  exchange : Exchange
  colored : Bool

/-- How a command ended that had no problem. -/
inductive ExitStatus where
  /-- Every phrase has a key. -/
  | success
  /-- Something is left to do. -/
  | failure
  /-- The command gave up. -/
  | error
  /-- The command broke off while it told about its work. -/
  | broken
  deriving DecidableEq, Repr

/-- The number of a status. -/
def ExitStatus.code : ExitStatus → Nat
  | .success => 0
  | .failure => 1
  | .error => 2
  | .broken => 101

/-- The command may write what it has worked out. -/
def ExitStatus.goesOn : ExitStatus → Bool
  | .success => true
  | .failure => true
  | .error => false
  | .broken => false

/-- Why a command could not go on. -/
inductive CommandProblem where
  | work (problem : Problem)
  | settingsFile (problem : Settings.FileProblem)
  /-- The first settings file could not be written. -/
  | unwritten (path : String) (fault : FileFault)
  deriving DecidableEq, Repr

namespace CommandProblem

/-- A problem in words. -/
def message : CommandProblem → String
  | .work problem => problem.message
  | .settingsFile problem => problem.message
  | .unwritten path _ => "Failed to write " ++ path

/-- What is behind a problem, in words. -/
def cause? : CommandProblem → Option String
  | .work _ => none
  | .settingsFile problem => some problem.cause
  | .unwritten _ fault => some fault.text

/-- A problem in words, with what is behind it. -/
def text (problem : CommandProblem) : String :=
  problem.message ++ ((problem.cause?.map (": " ++ ·)).getD "")

end CommandProblem

/-- A command that ended. -/
structure Ran where
  result : Except CommandProblem ExitStatus
  files : FileTree
  console : Console

/-- A project that a command can work on. -/
structure Opened where
  project : Project
  translator : Translator
  session : Session
  console : Console

namespace Opened

/-- The settings of a project as the options have them. -/
def settingsFor (options : CommonOptions) (found : Settings.Found) : Settings :=
  { found.settings with localePath := options.localePath?.or found.settings.localePath }

/-- The translator of a project. In production nothing is translated. -/
def translatorFor (mode : BuildMode) (settings : Settings) (surroundings : Surroundings) :
    Except Problem Translator :=
  match mode with
  | .production => .ok fun _ => ⟨0, .error .unreachable⟩
  | .development =>
    (Service.ofSettings settings surroundings.environment).map (·.translator surroundings.exchange)

/-- The console of a command, which tells that there is no settings file. -/
def consoleFor (options : CommonOptions) (found : Settings.Found) (colored : Bool) : Console :=
  let console := Console.start colored options.verbose
  if found.fromFile then console
  else console.notice ["no " ++ Settings.fileName ++ " found, using defaults"]

/-- Starts to work on a project with settings. -/
def ofFound (options : CommonOptions) (mode : BuildMode) (surroundings : Surroundings)
    (found : Settings.Found) : Except Problem Opened := do
  let settings ← (settingsFor options found).validate
  let translator ← translatorFor mode settings surroundings
  let project : Project := ⟨settings, options.root?.getD found.root⟩
  let session ← project.start surroundings.files
  pure ⟨project, translator, session, consoleFor options found surroundings.colored⟩

/-- Starts to work on the project that the options and the working directory tell. -/
def ofOptions (options : CommonOptions) (mode : BuildMode) (surroundings : Surroundings) :
    Except Ran Opened :=
  let files := surroundings.files
  match Settings.load files (options.root?.getD files.workingPath) with
  | .error problem =>
    .error ⟨.error (.settingsFile problem), files,
      Console.start surroundings.colored options.verbose⟩
  | .ok found =>
    (ofFound options mode surroundings found).mapError fun problem =>
      ⟨.error (.work problem), files, consoleFor options found surroundings.colored⟩

/-- Does the work of a command. -/
def run (opened : Opened) (work : HostAction Desk ExitStatus) : Ran :=
  let (found, session, desk) := work.runOn opened.session ⟨opened.console, Feed.empty⟩
  ⟨found.mapError .work, session.files, desk.console⟩

end Opened

end Phrasebook
