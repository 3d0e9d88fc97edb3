import Phrasebook.Catalog
import Phrasebook.FileAction

/-!
# Locale files

A catalog of a language stands in a file named for the language. A file that is not there or
blank holds the empty catalog, and a catalog is written only where that changes the file.

Models the store of the resource documents (specification, sections 3 and 4.4): loading, and saving
if changed.
-/

namespace Phrasebook

/-- The directory of the locale files and the two languages of a project. -/
structure Locales where
  directory : String
  sourceLanguage : String
  targetLanguage : String
  deriving DecidableEq, Repr

namespace Locales

/-- The path of the file of a language. -/
def pathOf (locales : Locales) (language : String) : String :=
  Path.join locales.directory (language ++ ".json")

/-- The catalog of a language. -/
def load (locales : Locales) (language : String) : FileAction Catalog := do
  let path := locales.pathOf language
  match ← FileAction.readTextIfFound path with
  | none => pure Catalog.empty
  | some text =>
    match Catalog.ofText text with
    | .ok catalog => pure catalog
    | .error defect => throw (.catalog path defect)

/-- The catalog of the source language. -/
def loadSource (locales : Locales) : FileAction Catalog := locales.load locales.sourceLanguage

/-- The catalog of the target language. -/
def loadTarget (locales : Locales) : FileAction Catalog := locales.load locales.targetLanguage

/-- Writes the catalog of a language, unless its file holds just that. Says whether it wrote. -/
def save (locales : Locales) (language : String) (catalog : Catalog) : FileAction Bool := do
  let path := locales.pathOf language
  if (← FileAction.readTextIfFound path) = some catalog.text then pure false
  else
    FileAction.createDirectories locales.directory
    FileAction.writeText path catalog.text
    pure true

end Locales

end Phrasebook
