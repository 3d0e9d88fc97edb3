import Phrasebook.FileAction
import Phrasebook.Glob.Expansion
import Phrasebook.Settings

/-!
# The sources of a project

The source files of a project are the files of some extensions below its included paths. Vendor
directories are not entered, and ignored files are left out. `SourceScope.files` lists them by
their paths relative to the project.

Models the source set (specification, section 10).
-/

namespace Phrasebook

/-- Where the sources of a project are. -/
structure SourceScope where
  root : String
  includes : List String
  ignores : List String
  vendorDirectories : List String
  source : CallSource
  deriving DecidableEq, Repr

/-- The sources of a project with some settings. -/
def Settings.scope (settings : Settings) (root : String) : SourceScope :=
  ⟨root, settings.includes, settings.ignores, settings.vendorDirectories, settings.source⟩

namespace SourceScope

/-! ## Files -/

/-- The extensions of scripts. -/
def scriptExtensions : List String := ["ts", "tsx", "js", "jsx", "mjs", "cjs"]

/-- The extensions of the files that a call source can search. -/
def extensions : CallSource → List String
  | .tree => scriptExtensions
  | .text => scriptExtensions ++ ["vue", "html"]

/-- The end of the names of files that only declare types. -/
def declarationEnd : String := ".d.ts"

/-- The file may contain marker calls, by its name. -/
def isSource (scope : SourceScope) (path : String) : Bool :=
  !declarationEnd.toList.isSuffixOf ((Path.fileName? path).getD "").toList
    && (Path.extension? path).any (extensions scope.source).contains

/-- An ignored path: one at or below a literal one, or one that a pattern matches, as it is or
relative to the project. Texts that are no patterns ignore nothing. -/
def isIgnored (scope : SourceScope) (path : String) : Bool :=
  scope.ignores.any fun ignored =>
    if Glob.Pattern.isWild ignored then
      match Glob.Pattern.ofText ignored with
      | .ok pattern =>
        pattern.accepts (Path.relative scope.root path) || pattern.accepts path
      | .error _ => false
    else Path.isBelow (Path.join scope.root ignored) path

/-! ## Walking -/

/-- What an included path stands for. -/
inductive Inclusion where
  | paths (found : List String)
  | missing (path : String)
  | invalid (pattern : String) (fault : Glob.Fault)
  deriving DecidableEq, Repr

/-- What an included path stands for in a file tree. -/
def include? (scope : SourceScope) (tree : FileTree) (included : String) : Inclusion :=
  let path := Path.join scope.root included
  if Glob.Pattern.isWild included then
    match Glob.expand tree path with
    | .ok found => .paths found
    | .error fault => .invalid included fault
  else if tree.contains path then .paths [path]
  else .missing path

/-- What the included paths stand for. Without any, the whole project is included. -/
def inclusions (scope : SourceScope) (tree : FileTree) : List Inclusion :=
  if scope.includes.isEmpty then [.paths [scope.root]]
  else scope.includes.map (scope.include? tree)

/-- The paths where walks start. -/
def starts (scope : SourceScope) (tree : FileTree) : List String :=
  (scope.inclusions tree).flatMap fun
    | .paths found => found
    | _ => []

/-- The name of the directory where a walk starts. -/
def startName (path : String) : String := (Path.fileName? path).getD path

/-- The files that a walk from a path comes to. -/
def walk (scope : SourceScope) (tree : FileTree) (start : String) : List String :=
  match tree.find start with
  | .error _ => []
  | .ok (_, .file _ _) => [start]
  | .ok (place, .directory) =>
    if scope.vendorDirectories.contains (startName start) then []
    else
      (tree.below place).filterMap fun (names, entry) =>
        match entry with
        | .directory => none
        | .file _ _ =>
          if names.dropLast.any scope.vendorDirectories.contains then none
          else some (names.foldl Path.join start)

/-- The source files, by their paths relative to the project. -/
def files (scope : SourceScope) (tree : FileTree) : TextSet :=
  TextSet.ofTexts
    ((((scope.starts tree).flatMap (scope.walk tree)).filter fun path =>
      scope.isSource path && !scope.isIgnored path).map (Path.relative scope.root))

/-- What is wrong with the included and ignored paths, in words: the ignored ones first. -/
def warnings (scope : SourceScope) (tree : FileTree) : List String :=
  (scope.ignores.filterMap fun ignored =>
    match Glob.Pattern.isWild ignored, Glob.Pattern.ofText ignored with
    | true, .error fault => some ("Invalid ignore pattern '" ++ ignored ++ "': " ++ fault.text)
    | _, _ => none)
  ++ (scope.inclusions tree).filterMap fun
    | .paths _ => none
    | .missing path => some ("Include path does not exist: " ++ path)
    | .invalid pattern fault =>
      some ("Invalid glob pattern '" ++ pattern ++ "': " ++ fault.text)

/-! ## Units -/

/-- The path of a source file. -/
def resolve (scope : SourceScope) (file : String) : String := Path.join scope.root file

/-- Reads a source file. -/
def readUnit (scope : SourceScope) (file : String) : FileAction SourceUnit := do
  pure ⟨file, ← FileAction.readText (scope.resolve file)⟩

end SourceScope

end Phrasebook
