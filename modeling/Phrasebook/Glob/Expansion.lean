import Phrasebook.FileTree

/-!
# Expanding patterns

A pattern with slashes is expanded to the paths in a file tree that it matches, one directory
after another. A part without wildcards is looked up; any other part is matched with the names in
a directory. The part `**` stands for any number of directories, and at the end of a pattern for
the directories themselves. Hidden names are names like others, but `.` and `..` are matched only
by parts that start with a dot.

Models the expansion of an included pattern (specification, section 10).
-/

namespace Phrasebook.Glob

/-- The character that a part of a pattern stands for alone. -/
def Token.char? : Token → Option Char
  | .char c => some c
  | _ => none

namespace Pattern

/-- The text that a pattern without wildcards matches. -/
def literal? (pattern : Pattern) : Option String :=
  (pattern.mapM Token.char?).map String.ofList

/-- The pattern stands for any number of directories. -/
def isRecursive (pattern : Pattern) : Bool := pattern.contains .directories

end Pattern

/-- The paths that the parts of a pattern lead to. -/
structure Expansion where
  tree : FileTree
  /-- Only directories are looked for. -/
  directoriesOnly : Bool

namespace Expansion

/-- The directory where patterns start that do not start at the root. -/
def start : String := "."

/-- A name seen from a directory. -/
def step (directory name : String) : String :=
  if directory = start then name else Path.join directory name

/-- The paths of the entries of a directory. -/
def children (expansion : Expansion) (directory : String) : List String :=
  match expansion.tree.resolve directory with
  | .ok place => (expansion.tree.childNames place).map (step directory)
  | .error _ => []

/-- A path that is looked for. -/
def accept (expansion : Expansion) (path : String) : List String :=
  if expansion.directoriesOnly && !expansion.tree.isDirectory path then [] else [path]

/-- Something stands at a path that ends with a literal part. -/
def holds (expansion : Expansion) (directory part path : String) : Bool :=
  if part = "." ∨ part = ".." then expansion.tree.isDirectory directory
  else expansion.tree.contains path

/-- The special names that a part matches. -/
def specialNames (part : Pattern) : List String :=
  if part.head? = some (Token.char '.') then [".", ".."].filter part.accepts else []

/-- The paths that parts lead to from an entry whose name the first part has to match. -/
def matchName (expansion : Expansion) (enter : List Pattern → String → List String)
    (parts : List Pattern) (path : String) : List String :=
  match parts, Path.fileName? path with
  | part :: rest, some name =>
    if part.accepts name then
      if rest.isEmpty then expansion.accept path else enter rest path
    else []
  | _, _ => []

/-- The paths that parts lead to from an entry of a directory. -/
def visit (expansion : Expansion) (enter : List Pattern → String → List String)
    (parts : List Pattern) (path : String) : List String :=
  match parts with
  | [] => []
  | part :: rest =>
    if part.isRecursive then
      let later := rest.dropWhile Pattern.isRecursive
      if expansion.tree.isDirectory path then
        enter (part :: later) path
          ++ (if later.isEmpty then [path] else expansion.matchName enter later path)
      else if later.isEmpty then []
      else expansion.matchName enter later path
    else expansion.matchName enter parts path

/-- The paths that parts lead to from a directory, in at most `depth` steps. -/
def enterFor (expansion : Expansion) : Nat → List Pattern → String → List String
  | 0, _, _ => []
  | _ + 1, [], _ => []
  | depth + 1, part :: rest, directory =>
    let onward := fun path =>
      if rest.isEmpty then expansion.accept path else expansion.enterFor depth rest path
    match part.literal? with
    | some name =>
      if expansion.holds directory name (step directory name) then onward (step directory name)
      else []
    | none =>
      if expansion.tree.isDirectory directory then
        (expansion.children directory).flatMap
            (expansion.visit (expansion.enterFor depth) (part :: rest))
          ++ ((specialNames part).map (Path.join directory)).flatMap onward
      else []

end Expansion

/-- The texts between slashes, without an empty one at the end. -/
def parts (text : String) : List String :=
  let found := Text.split '/' text
  if found.getLast? = some "" then found.dropLast else found

/-- The paths in a file tree that a pattern matches. -/
def expand (tree : FileTree) (text : String) : Except Fault (List String) := do
  discard (Pattern.ofText text)
  let relative := if Path.isAbsolute text then String.ofList (text.toList.dropWhile (· == '/'))
    else text
  let patterns ← (parts relative).mapM Pattern.ofText
  let expansion : Expansion := ⟨tree, text.toList.getLast? == some '/'⟩
  let start := if Path.isAbsolute text then "/" else Expansion.start
  .ok (expansion.enterFor ((patterns.length + 1) * (tree.entries.size + 2)) patterns start)

end Phrasebook.Glob
