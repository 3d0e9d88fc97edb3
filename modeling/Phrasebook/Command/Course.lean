import Phrasebook.Command.Build
import Phrasebook.Command.Init
import Phrasebook.Command.Sync
import Phrasebook.Command.Watch

/-!
# Starting commands

Every command ends by itself but the watch, which goes on from tick to tick.

Models the dispatch of commands, from the program's arguments to the command that runs.
-/

namespace Phrasebook.Command

/-- Starts a command. -/
def start (command : Command) (surroundings : Surroundings) : Course :=
  match command with
  | .init root? => .ended (Init.run root? surroundings)
  | .build options mode outDirectory? =>
    .ended (Build.run options mode outDirectory? surroundings)
  | .sync options => .ended (Sync.run options surroundings)
  | .watch options outDirectory? => Watching.start options outDirectory? surroundings

end Phrasebook.Command
