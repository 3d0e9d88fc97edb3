import Phrasebook.Command.Run

/-!
# The first settings file

A project begins with a settings file that holds the settings a new project starts with. A file
that is there stays as it is.

Models the command `init` (specification, section 11).
-/

namespace Phrasebook.Init

/-- Writes the first settings file of a directory. -/
def run (root? : Option String) (surroundings : Surroundings) : Ran :=
  let files := surroundings.files
  let path := Path.join (root?.getD files.workingPath) Settings.fileName
  let console := Console.start surroundings.colored false
  if files.contains path then
    ⟨.ok .failure, files, console.complain fun _ =>
      "Error: " ++ Settings.fileName ++ " already exists\n"⟩
  else
    match files.write path (Settings.initialText ++ "\n") with
    | (.error fault, files) => ⟨.error (.unwritten path fault), files, console⟩
    | (.ok (), files) =>
      ⟨.ok .success, files, console.tell fun report =>
        report.success ("Created " ++ Settings.fileName)⟩

end Phrasebook.Init
