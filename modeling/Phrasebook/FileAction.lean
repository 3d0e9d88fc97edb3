import Phrasebook.FileTree

/-!
# Actions on files

An action reads and changes a file tree and may end with a problem. What it changed before the
problem stays changed.

Models how the program calls the file system.
-/

namespace Phrasebook

/-- An action on files. -/
abbrev FileAction := ExceptT Problem (StateM FileTree)

namespace FileAction

/-- What an action gives, and the files after it. -/
def runOn {α : Type} (action : FileAction α) (tree : FileTree) :
    Except Problem α × FileTree :=
  StateT.run (ExceptT.run action) tree

/-- The files. -/
def tree : FileAction FileTree := get

/-- An answer, or a problem with the file at a path. -/
def orFault {α : Type} (path : String) (found : Except FileFault α) : FileAction α :=
  match found with
  | .ok value => pure value
  | .error fault => throw (.file path fault)

/-- The text of the file at a path. -/
def readText (path : String) : FileAction String := do
  orFault path ((← tree).readText path)

/-- The text of the file at a path, if something stands there. -/
def readTextIfFound (path : String) : FileAction (Option String) := do
  match (← tree).readText path with
  | .ok text => pure (some text)
  | .error .notFound => pure none
  | .error fault => throw (.file path fault)

/-- Writes a text to the file at a path. -/
def writeText (path text : String) : FileAction Unit := do
  let (found, after) := (← tree).write path text
  set after
  orFault path found

/-- Adds a directory and all that lead to it. -/
def createDirectories (path : String) : FileAction Unit := do
  set (← orFault path ((← tree).createDirectories path))

/-- Writes a text to the file at a path seen from a directory, which need not be there. -/
def writeBelow (directory path text : String) : FileAction Unit := do
  let target := Path.join directory path
  match Path.parent? target with
  | some parent => createDirectories parent
  | none => pure ()
  writeText target text

end FileAction

end Phrasebook
