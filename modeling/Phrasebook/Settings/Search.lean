import Phrasebook.FileTree
import Phrasebook.Settings.Reader
import Phrasebook.Text.Escaped

/-!
# Finding settings

The settings of a project stand in a file of a fixed name. It is looked for in a directory and
then in the directories above it, as the path of the directory names them; a directory with a
repository ends the search.

Models how the configuration file is located (specification, section 10).
-/

namespace Phrasebook.Settings

/-- The name of the settings file. -/
def fileName : String := ".transmarkrc.json"

/-- The name of the entry that marks a repository. -/
def repositoryName : String := ".git"

/-- A path and the paths above it, for at most `depth` steps. -/
def upwardFor (path : String) : Nat → List String
  | 0 => [path]
  | depth + 1 =>
    match Path.parent? path with
    | none => [path]
    | some parent => path :: upwardFor parent depth

/-- A path and the paths above it, nearest first. -/
def upward (path : String) : List String := upwardFor path (path.length + 1)

/-- The settings file of the first directory that has one, up to the first with a repository. -/
def searchIn (tree : FileTree) : List String → Option String
  | [] => none
  | directory :: above =>
    if tree.contains (Path.join directory fileName) then some (Path.join directory fileName)
    else if tree.contains (Path.join directory repositoryName) then none
    else searchIn tree above

/-- The settings file that is in force in a directory. -/
def findFile (tree : FileTree) (directory : String) : Option String :=
  searchIn tree (upward directory)

/-- The settings in force in a directory. -/
structure Found where
  settings : Settings
  /-- The directory of the settings file, or the one where the search started. -/
  root : String
  fromFile : Bool
  deriving DecidableEq, Repr

/-- Why a settings file gives no settings. -/
inductive FileProblem where
  | unreadable (path : String) (fault : FileFault)
  | unusable (path : String) (defect : Json.Defect)
  deriving DecidableEq, Repr

namespace FileProblem

/-- A problem in words. -/
def message : FileProblem → String
  | .unreadable path _ => "Failed to read config file: " ++ quoted (Text.escaped path)
  | .unusable path _ => "Failed to parse config file: " ++ quoted (Text.escaped path)

/-- What is behind a problem, in words. -/
def cause : FileProblem → String
  | .unreadable _ fault => fault.text
  | .unusable _ defect => defect.text

end FileProblem

/-- Finds and reads the settings in force in a directory. Without a file they have their
defaults. -/
def load (tree : FileTree) (directory : String) : Except FileProblem Found :=
  match findFile tree directory with
  | none => .ok ⟨{}, directory, false⟩
  | some path =>
    match tree.readText path with
    | .error fault => .error (.unreadable path fault)
    | .ok text =>
      match Settings.ofText text with
      | .error defect => .error (.unusable path defect)
      | .ok settings => .ok ⟨settings, (Path.parent? path).getD directory, true⟩

end Phrasebook.Settings
