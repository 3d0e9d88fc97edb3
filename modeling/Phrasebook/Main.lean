import Phrasebook.Command.Course
import Phrasebook.Command.Help

/-!
# The program

The files that a command may look at are read into a tree, the command runs on the tree, and what
it changed is written. A watch reads the files again before every tick. No request leaves the
program: every service counts as out of reach.

Models the entry of the program.
-/

namespace Phrasebook.Program

/-! ## Reading -/

/-- The time of a change as a stamp. -/
def stampOf (time : IO.FS.SystemTime) : Nat := time.sec.toNat * 1000000000 + time.nsec.toNat

/-- A tree with one more file, where the directories to it can be. -/
def addFile (tree : FileTree) (path : String) (bytes : ByteArray) (stamp : Nat) : FileTree :=
  let content :=
    match String.fromUTF8? bytes with
    | some text => FileContent.text text
    | none => FileContent.bytes bytes.toList
  ({ tree with nextStamp := stamp }.writeDeep path content).toOption.getD tree

/-- A tree with one more directory, where the directories to it can be. -/
def addDirectory (tree : FileTree) (path : String) : FileTree :=
  (tree.createDirectories path).toOption.getD tree

/-- Reads what stands at a path into a tree, and what stands below it for some levels. Links and
directories of some names are passed over. -/
partial def readInto (passed : List String) (levels : Nat) (tree : FileTree) (path : String) :
    IO FileTree := do
  let found := (← IO.currentDir) / path
  if !(← found.pathExists) then return tree
  let metadata ← found.symlinkMetadata
  match metadata.type with
  | .file => return addFile tree path (← IO.FS.readBinFile found) (stampOf metadata.modified)
  | .dir =>
    let mut tree := addDirectory tree path
    if levels > 0 then
      for entry in ← found.readDir do
        if !passed.contains entry.fileName then
          tree ← readInto passed (levels - 1) tree (Path.join path entry.fileName)
    return tree
  | _ => return tree

/-- How deep directories are read. -/
def depth : Nat := 64

/-- Reads the settings files and repositories that a search from a directory comes to. -/
def readSearch (directory : String) : IO FileTree := do
  let mut tree := { FileTree.empty with workingDirectory := Path.names (← IO.currentDir).toString }
  for above in Settings.upward directory do
    tree ← readInto [] 0 tree above
    tree ← readInto [] 0 tree (Path.join above Settings.fileName)
    tree ← readInto [] 0 tree (Path.join above Settings.repositoryName)
  return tree

/-- The directory where a command looks for settings, and the directories that it names. -/
def namedBy : Command → Option String × List String
  | .init root? => (root?, [])
  | .build options _ outDirectory? =>
    (options.root?, options.localePath?.toList ++ outDirectory?.toList)
  | .sync options => (options.root?, options.localePath?.toList)
  | .watch options outDirectory? =>
    (options.root?, options.localePath?.toList ++ outDirectory?.toList)

/-- The settings in force for a command, without a fault or the ones by default. -/
def settingsIn (tree : FileTree) (directory : String) : Settings.Found :=
  (Settings.load tree directory).toOption.getD ⟨{}, directory, false⟩

/-- Reads all files that a command may look at. -/
def readFiles (command : Command) : IO FileTree := do
  let (root?, named) := namedBy command
  let directory := root?.getD (← IO.currentDir).toString
  let tree ← readSearch directory
  let found := settingsIn tree directory
  let root := root?.getD found.root
  let passed := Settings.repositoryName :: found.settings.vendorDirectories
  let below :=
    (found.settings.includes.filter (!Glob.Pattern.isWild ·)) ++ found.settings.localePath.toList
  let tree ← readInto passed depth tree root
  let tree ← (below.map (Path.join root)).foldlM (readInto passed depth) tree
  named.foldlM (readInto passed depth) tree

/-- The environment variables that a command may look at. -/
def readEnvironment (tree : FileTree) (directory : String) : IO Environment := do
  let names := [Command.productionVariable, Service.usualKeyVariable]
    ++ (settingsIn tree directory).settings.service.apiKeyVariable.toList
  let values ← names.mapM fun name => return (name, ← IO.getEnv name)
  return fun name => (values.find? (·.1 == name)).bind (·.2)

/-! ## Writing -/

/-- Writes what changed in a tree. -/
def writeChanges (before after : FileTree) : IO Unit := do
  for (place, content) in before.changesSince after do
    let path := FileTree.keyOf place
    IO.FS.createDirAll ((Path.parent? path).getD "/")
    match content with
    | .text text => IO.FS.writeFile path text
    | .bytes bytes => IO.FS.writeBinFile path ⟨bytes.toArray⟩

/-- Prints what was told since a console was last looked at. -/
def printNews (before after : Console) : IO Unit := do
  IO.print (after.output.drop before.output.length)
  IO.eprint (after.errors.drop before.errors.length)

/-! ## Running -/

/-- Goes on with a command until it ends. -/
partial def follow (command : Command) (tree : FileTree) (told : Console) : Course → IO UInt32
  | .ended ran => do
    writeChanges tree ran.files
    printNews told ran.console
    match ran.result with
    | .ok status => return UInt32.ofNat status.code
    | .error problem =>
      IO.eprintln ("Error: " ++ problem.text)
      return UInt32.ofNat ExitStatus.error.code
  | .watching watching => do
    writeChanges tree watching.session.files
    printNews told watching.watch.console
    IO.sleep (UInt32.ofNat watching.project.settings.interval)
    let tree ← readFiles command
    follow command tree watching.watch.console (watching.edit fun _ => tree).tick

/-- Runs the command that arguments name. -/
def run (arguments : List String) : IO UInt32 := do
  let wanted ← IO.getEnv Command.productionVariable
  match Command.ofArguments (fun _ => wanted) arguments with
  | .error .helpWanted => do
    IO.print Help.text
    return 0
  | .error .versionWanted => do
    IO.print Help.version
    return 0
  | .error fault => do
    IO.eprintln ("error: " ++ fault.message)
    return 2
  | .ok none => do
    IO.print Help.text
    return 0
  | .ok (some command) => do
    let tree ← readFiles command
    let directory := (namedBy command).1.getD tree.workingPath
    let environment ← readEnvironment tree directory
    let colored := (← IO.getEnv "NO_COLOR").isNone && (← (← IO.getStdout).isTty)
    let surroundings : Surroundings := ⟨tree, environment, fun _ => none, colored⟩
    follow command tree (Console.start colored command.isVerbose) (command.start surroundings)

end Phrasebook.Program

/-- Runs the program. -/
def main (arguments : List String) : IO UInt32 := Phrasebook.Program.run arguments
