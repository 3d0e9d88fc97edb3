import Phrasebook.Command.Flag
import Phrasebook.Service

/-!
# Commands

The arguments of the program name a command and give its flags. No arguments name no command.

Models the command line of the program (specification, section 11).
-/

namespace Phrasebook

/-- What all commands on a project may be told. -/
structure CommonOptions where
  /-- The directory of the project, unless that of its settings file. -/
  root? : Option String
  /-- The directory of the locale files, unless that of the settings. -/
  localePath? : Option String
  verbose : Bool
  deriving DecidableEq, Repr

/-- A command. -/
inductive Command where
  /-- Writes the first settings file. -/
  | init (root? : Option String)
  /-- Rewrites all sources. -/
  | build (options : CommonOptions) (mode : BuildMode) (outDirectory? : Option String)
  /-- Translates all phrases and brings the locale files in line. -/
  | sync (options : CommonOptions)
  /-- Rewrites and translates until it is stopped. -/
  | watch (options : CommonOptions) (outDirectory? : Option String)
  deriving DecidableEq, Repr

/-- The names of the commands. -/
inductive CommandName where
  | init
  | build
  | sync
  | watch
  deriving DecidableEq, Repr

namespace CommandName

/-- The text of a name. -/
def text : CommandName → String
  | .init => "init"
  | .build => "build"
  | .sync => "sync"
  | .watch => "watch"

/-- The name with a text. -/
def named? (text : String) : Option CommandName :=
  [CommandName.init, .build, .sync, .watch].find? (·.text == text)

/-- The flags of a command. -/
def flags : CommandName → List Flag
  | .init => [.root, .help]
  | .build => [.root, .localePath, .verbose, .production, .outDirectory, .help]
  | .sync => [.root, .localePath, .verbose, .help]
  | .watch => [.root, .localePath, .verbose, .outDirectory, .help]

end CommandName

namespace Command

/-- The command prints details. -/
def isVerbose : Command → Bool
  | .init _ => false
  | .build options _ _ => options.verbose
  | .sync options => options.verbose
  | .watch options _ => options.verbose

/-- What asks how to use a command. -/
def helpName : String := "help"

/-- The environment variable that asks for production. -/
def productionVariable : String := "TRANSMARK_PRODUCTION"

/-- The mode of a build, by its flag and otherwise by the environment. -/
def modeOf (environment : Environment) (reading : FlagReading) :
    Except ArgumentFault BuildMode :=
  if reading.has .production then .ok .production
  else
    match environment productionVariable with
    | none => .ok .development
    | some "false" => .ok .development
    | some "true" => .ok .production
    | some other => .error (.invalidValue .production other)

/-- What all commands on a project are told by flags. -/
def optionsOf (reading : FlagReading) : CommonOptions :=
  ⟨reading.value? .root, reading.value? .localePath, reading.has .verbose⟩

/-- The command of a name with flags. -/
def ofReading (environment : Environment) (reading : FlagReading) :
    CommandName → Except ArgumentFault Command
  | .init => .ok (.init (reading.value? .root))
  | .build =>
    (modeOf environment reading).map fun mode =>
      .build (optionsOf reading) mode (reading.value? .outDirectory)
  | .sync => .ok (.sync (optionsOf reading))
  | .watch => .ok (.watch (optionsOf reading) (reading.value? .outDirectory))

/-- The command of a name with arguments, all of which are flags. -/
def ofName (environment : Environment) (name : CommandName) (arguments : List String) :
    Except ArgumentFault Command := do
  let (reading, stop) ← FlagReading.read name.flags .start arguments
  match stop with
  | .atPlain argument _ => throw (.unknownArgument argument)
  | .atHyphens (argument :: _) => throw (.unknownArgument argument)
  | _ => ofReading environment (← reading.settle) name

/-- What asking how to use a command leads to. -/
def helpFault : List String → ArgumentFault
  | [] => .helpWanted
  | name :: rest =>
    if (CommandName.named? name).isNone ∧ name ≠ helpName then .unknownCommand name
    else
      match rest with
      | [] => .helpWanted
      | other :: _ => .unknownCommand other

/-- The command of arguments, if they name one. -/
def ofArguments (environment : Environment) (arguments : List String) :
    Except ArgumentFault (Option Command) := do
  let (_, stop) ← FlagReading.read [.help, .version] .start arguments
  match stop with
  | .atEnd => pure none
  | .atHyphens [] => pure none
  | .atHyphens (argument :: _) =>
    if (CommandName.named? argument).isSome ∨ argument = helpName then
      throw (.unknownArgument argument)
    else throw (.unknownCommand argument)
  | .atPlain argument rest =>
    if argument = helpName then throw (helpFault rest)
    else
      match CommandName.named? argument with
      | none => throw (.unknownCommand argument)
      | some name => some <$> ofName environment name rest

end Command

end Phrasebook
