import Phrasebook.Command.Arguments

/-!
# Help

How the program is used, and what is wrong with arguments that make no command.

Models the texts that the command line library prints for the program's commands and flags.
-/

namespace Phrasebook

/-- What a command does. -/
def CommandName.purpose : CommandName → String
  | .init => "Write the first settings file"
  | .build => "Rewrite marker calls to key references"
  | .sync => "Translate phrases without a key and remove unused keys"
  | .watch => "Rewrite and translate until interrupted"

/-- What a flag does. -/
def Flag.purpose : Flag → String
  | .root => "Directory of the project"
  | .localePath => "Directory of the locale files, in place of the one in the settings"
  | .verbose => "Tell details"
  | .production => "Fail on phrases without a translation"
  | .outDirectory => "Write rewritten files below this directory"
  | .help => "Tell how to use the program"
  | .version => "Tell the version"

namespace Help

/-- A flag as it is given. -/
def flagText (flag : Flag) : String :=
  "--" ++ flag.name ++ (if flag.takesValue then " <VALUE>" else "")
    ++ (flag.letter?.map fun letter => ", -" ++ String.singleton letter).getD ""

/-- A line of help on a flag. -/
def flagLine (flag : Flag) : String := "      " ++ flagText flag ++ ": " ++ flag.purpose ++ "\n"

/-- The help on a command and its flags. -/
def commandLines (name : CommandName) : String :=
  "  " ++ name.text ++ ": " ++ name.purpose ++ "\n" ++ String.join (name.flags.map flagLine)

/-- The help on all commands. -/
def text : String :=
  "Usage: phrasebook [COMMAND]\n\nCommands:\n"
    ++ String.join ([CommandName.build, .sync, .watch, .init].map commandLines)

/-- The version of the program. -/
def version : String := "phrasebook 0.1.0\n"

end Help

/-- What is wrong with arguments, in words. -/
def ArgumentFault.message : ArgumentFault → String
  | .unknownArgument argument => "unexpected argument '" ++ argument ++ "' found"
  | .unknownCommand name => "unrecognized subcommand '" ++ name ++ "'"
  | .missingValue flag =>
    "a value is required for '" ++ Help.flagText flag ++ "' but none was supplied"
  | .invalidValue flag value =>
    "invalid value '" ++ value ++ "' for '" ++ Help.flagText flag ++ "'"
  | .unneededValue flag => "unexpected value for '" ++ Help.flagText flag ++ "' found"
  | .repeated flag =>
    "the argument '" ++ Help.flagText flag ++ "' cannot be used multiple times"
  | .helpWanted => Help.text
  | .versionWanted => Help.version

end Phrasebook
