import Phrasebook.Dictionary
import Phrasebook.Path
import Phrasebook.Problem
import Phrasebook.Text.Position

/-!
# File trees

A file tree holds directories and files by their places, which are the names on the way from the
root. A path leads to a place: its segments are followed one by one, each from a directory that is
there, and a path that does not start at the root starts at the working directory. A path without
a null character can be followed if it and its segments are short enough.

Every write of a file gets a new stamp, so that a file with the stamp it had before was not
written. A write empties its file first. Where the disk then takes no more than some bytes, these
are what the file holds, and the write fails.

Models the file system, as far as the program reads and writes it.
-/

namespace Phrasebook

/-- What a file holds. -/
inductive FileContent where
  | text (value : String)
  /-- Bytes that are no text. -/
  | bytes (values : List UInt8)
  deriving DecidableEq, Repr

/-- What a file holds that got the first bytes of a text: a text, unless they end inside a
character. -/
def FileContent.firstBytes (text : String) (count : Nat) : FileContent :=
  let front := (Text.splitAtOffset count text.toList).1
  if Text.byteLength front = count then .text (String.ofList front)
  else .bytes ((text.toList.flatMap String.utf8EncodeChar).take count)

/-- What stands at a place. -/
inductive FileEntry where
  | directory
  | file (content : FileContent) (stamp : Nat)
  deriving DecidableEq, Repr

/-- The names from the root to a file or directory. -/
abbrev Place := List String

/-- Files and directories, of which the root is always there. -/
structure FileTree where
  entries : Dictionary FileEntry
  workingDirectory : Place
  /-- The stamp of the next write. -/
  nextStamp : Nat
  /-- How many bytes the disk takes at most, for the stamps of some writes. -/
  shortWrites : List (Nat × Nat)
  deriving DecidableEq

namespace FileTree

/-- A tree without entries. -/
def empty : FileTree := ⟨Dictionary.empty, [], 0, []⟩

instance : Inhabited FileTree := ⟨empty⟩

/-- The key of a place among the entries, which is also its path. -/
def keyOf (place : Place) : String := "/" ++ String.intercalate "/" place

/-- The path of the working directory. -/
def workingPath (tree : FileTree) : String := keyOf tree.workingDirectory

/-- The entry at a place. -/
def entryAt? (tree : FileTree) (place : Place) : Option FileEntry :=
  if place.isEmpty then some .directory else tree.entries.get? (keyOf place)

/-- The greatest length of a name in bytes. -/
def nameLimit : Nat := 255

/-- The greatest length of a path in bytes. -/
def pathLimit : Nat := 4095

/-- The place after some segments, each but the last of which leads to a directory. -/
def follow (tree : FileTree) (place : Place) : List String → Except FileFault Place
  | [] => .ok place
  | segment :: rest =>
    match tree.entryAt? place with
    | none => .error .notFound
    | some (.file _ _) => .error .notDirectory
    | some .directory =>
      if Path.isIdle segment then tree.follow place rest
      else if segment = ".." then tree.follow place.dropLast rest
      else if nameLimit < segment.utf8ByteSize then .error .nameTooLong
      else tree.follow (place ++ [segment]) rest

/-- The place that a path leads to, whether anything stands there or not. -/
def resolve (tree : FileTree) (path : String) : Except FileFault Place :=
  if path.toList.contains '\x00' then .error .nullInPath
  else if path = "" then .error .notFound
  else if pathLimit < path.utf8ByteSize then .error .nameTooLong
  else
    tree.follow (if Path.isAbsolute path then [] else tree.workingDirectory) (Path.segments path)

/-! ## Looking -/

/-- The place of a path, where something stands, and what. -/
def find (tree : FileTree) (path : String) : Except FileFault (Place × FileEntry) := do
  let place ← tree.resolve path
  match tree.entryAt? place with
  | some entry => .ok (place, entry)
  | none => .error .notFound

/-- What stands at a path. -/
def entry? (tree : FileTree) (path : String) : Option FileEntry :=
  (tree.find path).toOption.map (·.2)

/-- Something stands at a path. -/
def contains (tree : FileTree) (path : String) : Bool := (tree.entry? path).isSome

/-- A directory stands at a path. -/
def isDirectory (tree : FileTree) (path : String) : Bool :=
  tree.entry? path == some .directory

/-- The stamp of the file at a path. -/
def stamp? (tree : FileTree) (path : String) : Option Nat :=
  match tree.entry? path with
  | some (.file _ stamp) => some stamp
  | _ => none

/-- The text of the file at a path. -/
def readText (tree : FileTree) (path : String) : Except FileFault String := do
  match (← tree.find path).2 with
  | .directory => .error .isDirectory
  | .file (.bytes _) _ => .error .notText
  | .file (.text value) _ => .ok value

/-- The places of the entries and the entries, in order. -/
def toList (tree : FileTree) : List (Place × FileEntry) :=
  tree.entries.toList.map fun (path, entry) => (Path.names path, entry)

/-- The names from a place to the entries below it, and the entries. -/
def below (tree : FileTree) (place : Place) : List (Place × FileEntry) :=
  tree.toList.filterMap fun (other, entry) =>
    if place.isPrefixOf other && place.length < other.length then
      some (other.drop place.length, entry)
    else none

/-- The names of the entries of a directory. -/
def childNames (tree : FileTree) (place : Place) : List String :=
  (tree.below place).filterMap fun (names, _) =>
    match names with
    | [name] => some name
    | _ => none

/-- The files that are new or hold something else than in an earlier tree. -/
def changesSince (earlier tree : FileTree) : List (Place × FileContent) :=
  tree.toList.filterMap fun (place, entry) =>
    match entry, earlier.entryAt? place with
    | .file content _, some (.file before _) =>
      if content = before then none else some (place, content)
    | .file content _, _ => some (place, content)
    | .directory, _ => none

/-- The places of the files that are gone since an earlier tree. -/
def removedSince (earlier tree : FileTree) : List Place :=
  earlier.toList.filterMap fun (place, entry) =>
    match entry, tree.entryAt? place with
    | .file _ _, none => some place
    | _, _ => none

/-! ## Writing -/

/-- The place of the file at a path, which may be a new one in a directory that is there. -/
def fileToWrite (tree : FileTree) (path : String) : Except FileFault Place := do
  let place ← tree.resolve path
  match tree.entryAt? place with
  | some .directory => .error .isDirectory
  | _ => .ok place

/-- Puts a content into the file at a place. -/
def put (tree : FileTree) (place : Place) (content : FileContent) : FileTree :=
  { tree with
    entries := tree.entries.insert (keyOf place) (.file content tree.nextStamp)
    nextStamp := tree.nextStamp + 1 }

/-- How many bytes of a text the disk takes at the next write, if these are not all. -/
def cut? (tree : FileTree) (text : String) : Option Nat :=
  (tree.shortWrites.lookup tree.nextStamp).filter (· < text.utf8ByteSize)

/-- Writes a text to the file at a path, and leaves the tree with what was written of it. -/
def write (tree : FileTree) (path text : String) : Except FileFault Unit × FileTree :=
  match tree.fileToWrite path with
  | .error fault => (.error fault, tree)
  | .ok place =>
    match tree.cut? text with
    | none => (.ok (), tree.put place (.text text))
    | some count => (.error .noSpace, tree.put place (.firstBytes text count))

/-- Adds a directory to one that is there. -/
def createDirectory (tree : FileTree) (path : String) : Except FileFault FileTree := do
  let place ← tree.resolve (Path.withoutEndSlashes path)
  match tree.entryAt? place with
  | some _ => .error .alreadyExists
  | none => .ok { tree with entries := tree.entries.insert (keyOf place) .directory }

/-- Adds a directory, and before it, for at most `depth` levels, the ones that lead to it. -/
def createDirectoriesFor (tree : FileTree) (path : String) : Nat → Except FileFault FileTree
  | 0 => .ok tree
  | depth + 1 =>
    if path = "" then .ok tree
    else
      match tree.createDirectory path with
      | .ok created => .ok created
      | .error .notFound =>
        match Path.parent? path with
        | none => .error .notFound
        | some parent => do
          let tree ← tree.createDirectoriesFor parent depth
          match tree.createDirectory path with
          | .ok created => .ok created
          | .error fault => if tree.isDirectory path then .ok tree else .error fault
      | .error fault => if tree.isDirectory path then .ok tree else .error fault

/-- Adds a directory and all that lead to it. -/
def createDirectories (tree : FileTree) (path : String) : Except FileFault FileTree :=
  tree.createDirectoriesFor path (path.length + 1)

/-- Takes away the file at a path. -/
def remove (tree : FileTree) (path : String) : Except FileFault FileTree := do
  match ← tree.find path with
  | (_, .directory) => .error .isDirectory
  | (place, .file _ _) => .ok { tree with entries := tree.entries.erase (keyOf place) }

/-- Adds a file with all directories that lead to it. -/
def writeDeep (tree : FileTree) (path : String) (content : FileContent) :
    Except FileFault FileTree := do
  let tree ← tree.createDirectories ((Path.parent? path).getD "")
  let place ← tree.fileToWrite path
  .ok (tree.put place content)

end FileTree

end Phrasebook
