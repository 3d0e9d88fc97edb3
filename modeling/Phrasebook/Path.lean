import Phrasebook.Text.Split

/-!
# Paths

A path is a text of segments between slashes. Empty segments and segments `.` name nothing, except
that a first segment `.` names the working directory.

Models the paths of the file system.
-/

namespace Phrasebook

/-- A step of a path. -/
inductive PathStep where
  /-- The root of all files. -/
  | root
  /-- The working directory, where a path starts with it. -/
  | current
  /-- The directory above. -/
  | parent
  /-- The entry with a name. -/
  | entry (name : String)
  deriving DecidableEq, Repr

namespace PathStep

/-- A step as text. -/
def text : PathStep → String
  | .root => "/"
  | .current => "."
  | .parent => ".."
  | .entry name => name

end PathStep

namespace Path

/-- The path starts at the root. -/
def isAbsolute (path : String) : Bool := path.toList.head? == some '/'

/-- The segments of a path, those that name nothing included. -/
def segments (path : String) : List String := Text.split '/' path

/-- The step of a segment after the first one. -/
def laterStep? (segment : String) : Option PathStep :=
  if segment = "" ∨ segment = "." then none
  else if segment = ".." then some .parent
  else some (.entry segment)

/-- The step of the first segment. -/
def firstStep? (path segment : String) : Option PathStep :=
  if isAbsolute path then some .root
  else if segment = "." then some .current
  else laterStep? segment

/-- The steps of a path. -/
def steps (path : String) : List PathStep :=
  match segments path with
  | [] => []
  | first :: rest => (firstStep? path first).toList ++ rest.filterMap laterStep?

/-- The names of the entries on a path. -/
def names (path : String) : List String :=
  (steps path).filterMap fun
    | .entry name => some name
    | _ => none

/-- A path seen from a directory. -/
def join (directory path : String) : String :=
  if isAbsolute path || directory == "" then path
  else if directory.toList.getLast? == some '/' then directory ++ path
  else directory ++ "/" ++ path

/-- The name of the entry that a path leads to. -/
def fileName? (path : String) : Option String :=
  match (steps path).getLast? with
  | some (.entry name) => some name
  | _ => none

/-- What stands after the last dot of a name, unless the name starts with it. -/
def extensionOfName? (name : String) : Option String :=
  match (Text.split '.' name).reverse with
  | [] => none
  | [_] => none
  | [last, first] => if first = "" then none else some last
  | last :: _ => some last

/-- The extension of the entry that a path leads to. -/
def extension? (path : String) : Option String := (fileName? path).bind extensionOfName?

/-- A path without slashes at its end, the root apart. -/
def withoutEndSlashes (path : String) : String :=
  let kept := (path.toList.reverse.dropWhile (· == '/')).reverse
  if kept.isEmpty then path else String.ofList kept

/-- A segment that names nothing. -/
def isIdle (segment : String) : Bool := segment == "" || segment == "."

/-- Segments without idle ones at the end, the first one apart. -/
def trimSegments : List String → List String
  | [] => []
  | first :: rest => first :: (rest.reverse.dropWhile isIdle).reverse

/-- The text of a path without its last step, of which there must be one other than the root. -/
def parent? (path : String) : Option String :=
  match trimSegments (segments path) with
  | [] => none
  | [first] => if first = "" then none else some ""
  | first :: rest =>
    match trimSegments (first :: rest.dropLast) with
    | [""] => some "/"
    | kept => some (String.intercalate "/" kept)

/-- The steps after those of a path that another one starts with. -/
def stepsBelow? (directory path : String) : Option (List PathStep) :=
  let front := steps directory
  if front.isPrefixOf (steps path) then some ((steps path).drop front.length) else none

/-- A path lies at another one or below it. -/
def isBelow (directory path : String) : Bool := (stepsBelow? directory path).isSome

/-- A path seen from a directory, as steps with slashes between them. A path that is not below
the directory keeps all its steps. -/
def relative (directory path : String) : String :=
  String.intercalate "/" (((stepsBelow? directory path).getD (steps path)).map PathStep.text)

end Path

end Phrasebook
