import Phrasebook.Json.Value
import Phrasebook.Key
import Phrasebook.Locales
import Phrasebook.Outcome
import Phrasebook.Merge
import Phrasebook.Rewriting

/-!
# Settings

The settings of a project, with a default for each, and their form as JSON.

Models the configuration (specification, section 10).
-/

namespace Phrasebook

/-- The translation services. -/
inductive ServiceKind where
  | libre
  | google
  deriving DecidableEq, Repr, Inhabited

/-- How the translation service is reached. -/
structure ServiceSettings where
  kind : ServiceKind := .libre
  /-- Where the service is, unless at its usual place. -/
  endpoint : Option String := none
  /-- The environment variable that holds the key of the service. -/
  apiKeyVariable : Option String := none
  deriving DecidableEq, Repr, Inhabited

/-- The settings of a project. -/
structure Settings where
  localePath : Option String := none
  namespaces : List String := []
  sourceLanguage : String := "zh"
  targetLanguage : String := "en"
  keyLanguage : KeyLanguage := .target
  marker : String := "i18n"
  includes : List String := ["src"]
  ignores : List String := []
  vendorDirectories : List String := ["node_modules"]
  source : CallSource := .tree
  /-- The time between two runs of a watch, in milliseconds. -/
  interval : Nat := 5000
  /-- The time that the translations of a batch may take, in milliseconds. -/
  timeout : Nat := 5000
  lowercaseFirst : Bool := true
  prune : Bool := true
  /-- The value of keys without a known one. -/
  untranslated : String := "__NOT_TRANSLATED__"
  service : ServiceSettings := {}
  deriving DecidableEq, Repr, Inhabited

/-! ## Names -/

/-- The name of a service. -/
def ServiceKind.name : ServiceKind → String
  | .libre => "libre"
  | .google => "google"

/-- The service with a name. -/
def ServiceKind.named? (name : String) : Option ServiceKind :=
  [ServiceKind.libre, .google].find? (·.name == name)

/-- The name of a key language. -/
def KeyLanguage.name : KeyLanguage → String
  | .target => "target"
  | .source => "source"

/-- The key language with a name. -/
def KeyLanguage.named? (name : String) : Option KeyLanguage :=
  [KeyLanguage.target, .source].find? (·.name == name)

/-- The name of a call source. -/
def CallSource.name : CallSource → String
  | .tree => "ast"
  | .text => "text"

/-- The call source with a name. -/
def CallSource.named? (name : String) : Option CallSource :=
  [CallSource.tree, .text].find? (·.name == name)

namespace Settings

/-! ## Text -/

/-- An entry that is left out without a value. -/
def optionalEntry (name : String) (value? : Option String) : List (String × Json.Value) :=
  (value?.map fun value => (name, Json.Value.text value)).toList

/-- The settings of the service as JSON. -/
def serviceJson (service : ServiceSettings) : Json.Value :=
  .object ([("kind", .text service.kind.name)]
    ++ optionalEntry "endpoint" service.endpoint
    ++ optionalEntry "apiKeyEnv" service.apiKeyVariable)

/-- Texts as JSON. -/
def textsJson (texts : List String) : Json.Value := .array (texts.map .text)

/-- The settings as JSON. -/
def toJson (settings : Settings) : Json.Value :=
  .object
    [("localePath", (settings.localePath.map .text).getD .null),
     ("namespaces", textsJson settings.namespaces),
     ("sourceLanguage", .text settings.sourceLanguage),
     ("targetLanguage", .text settings.targetLanguage),
     ("defaultLanguage", .text settings.keyLanguage.name),
     ("markerVariable", .text settings.marker),
     ("includes", textsJson settings.includes),
     ("ignores", textsJson settings.ignores),
     ("vendorDirs", textsJson settings.vendorDirectories),
     ("parser", .text settings.source.name),
     ("intervalMs", .number settings.interval),
     ("timeoutMs", .number settings.timeout),
     ("lowercaseFirst", .bool settings.lowercaseFirst),
     ("removeUnusedKeys", .bool settings.prune),
     ("untranslatedValue", .text settings.untranslated),
     ("provider", serviceJson settings.service)]

/-- The settings that a new project starts with. -/
def initial : Settings :=
  { localePath := some "./src/locales", namespaces := [Key.defaultNamespace] }

/-- The text of the settings that a new project starts with. -/
def initialText : String := initial.toJson.pretty

/-! ## Parts -/

/-- The directory of the locale files of a project. -/
def localeDirectory (settings : Settings) (root : String) : String :=
  match settings.localePath with
  | some path => Path.join root path
  | none => root

/-- The locale files of a project. -/
def locales (settings : Settings) (root : String) : Locales :=
  ⟨settings.localeDirectory root, settings.sourceLanguage, settings.targetLanguage⟩

/-- How units are searched for marker calls. -/
def markerRules (settings : Settings) : MarkerRules :=
  ⟨settings.marker, settings.namespaces, settings.vendorDirectories, settings.source⟩

/-- How catalogs are merged. -/
def merge (settings : Settings) : Merge :=
  ⟨settings.keyLanguage, settings.untranslated, settings.prune⟩

/-- How translations become values and keys. -/
def wording (settings : Settings) : Wording :=
  ⟨settings.lowercaseFirst, settings.keyLanguage⟩

end Settings

end Phrasebook
