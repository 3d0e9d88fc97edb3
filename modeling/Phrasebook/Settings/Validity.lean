import Phrasebook.Settings
import Phrasebook.Text.Blank

/-!
# Valid settings

`Settings.fault?` gives the first fault of settings. The faults are looked for in a fixed order.

Models the validation of the configuration (specification, sections 7 and 10).
-/

namespace Phrasebook.Settings

/-- An ASCII letter, a low line or a dollar sign. -/
def startsMarker (c : Char) : Bool := c.isAlpha || c == '_' || c == '$'

/-- The text is a marker: ASCII letters, digits, low lines and dollar signs, no digit first. -/
def isMarker (text : String) : Bool :=
  match text.toList with
  | [] => false
  | first :: rest => startsMarker first && rest.all fun c => startsMarker c || c.isDigit

/-- The text is the name of a namespace. -/
def isNamespaceName (text : String) : Bool :=
  text != "" && !text.toList.contains Key.separator

/-- The first text that is no pattern, as a fault. -/
def patternFault? (fault : String → Glob.Fault → SettingsFault) (texts : List String) :
    Option SettingsFault :=
  texts.findSome? fun text =>
    match Glob.Pattern.ofText text with
    | .ok _ => none
    | .error found => some (fault text found)

/-- A fault, if a condition fails. -/
def require (condition : Bool) (fault : SettingsFault) : Option SettingsFault :=
  if condition then none else some fault

/-- The first fault of settings. -/
def fault? (settings : Settings) : Option SettingsFault :=
  require (settings.localePath.any fun path => !Text.isBlankText path) .noLocalePath
  <|> require (!settings.namespaces.isEmpty) .noNamespaces
  <|> (settings.namespaces.find? (!isNamespaceName ·)).map .namespaceName
  <|> require (settings.sourceLanguage != settings.targetLanguage)
    (.sameLanguages settings.sourceLanguage)
  <|> require (isMarker settings.marker) (.markerName settings.marker)
  <|> require (settings.interval != 0) .noInterval
  <|> patternFault? .ignorePattern settings.ignores
  <|> patternFault? .includePattern (settings.includes.filter Glob.Pattern.isWild)

/-- The settings, if they have no fault. -/
def validate (settings : Settings) : Except Problem Settings :=
  match settings.fault? with
  | none => .ok settings
  | some fault => .error (.settings fault)

end Phrasebook.Settings
