import Phrasebook.Json.Reader
import Phrasebook.Settings

/-!
# Reading settings

Settings are read from JSON, where each has a name and some have a second one. A setting that is
not given has its default; names that are no settings are passed over.

Models how the configuration is read from its file.
-/

namespace Phrasebook.Settings

open Json

/-- The settings of the service, in order. -/
inductive ServiceField where
  | kind
  | endpoint
  | apiKeyVariable
  deriving DecidableEq, Repr

/-- The settings, in order. -/
inductive Field where
  | localePath
  | namespaces
  | sourceLanguage
  | targetLanguage
  | keyLanguage
  | marker
  | includes
  | ignores
  | vendorDirectories
  | source
  | interval
  | timeout
  | lowercaseFirst
  | prune
  | untranslated
  | service
  deriving DecidableEq, Repr

/-- The settings of the service, in order. -/
def serviceFields : List ServiceField := [.kind, .endpoint, .apiKeyVariable]

/-- The setting of the service with a name. -/
def serviceField? : String → Option ServiceField
  | "kind" => some .kind
  | "endpoint" => some .endpoint
  | "apiKeyEnv" => some .apiKeyVariable
  | _ => none

/-- Reads a setting of the service. -/
def readServiceField (field : ServiceField) (service : ServiceSettings) :
    Json.Reader ServiceSettings := do
  match field with
  | .kind => pure { service with kind := ← Reader.named ServiceKind.named? }
  | .endpoint => pure { service with endpoint := ← Reader.optional Reader.text }
  | .apiKeyVariable => pure { service with apiKeyVariable := ← Reader.optional Reader.text }

/-- The settings, in order. -/
def fieldOrder : List Field :=
  [.localePath, .namespaces, .sourceLanguage, .targetLanguage, .keyLanguage, .marker, .includes,
   .ignores, .vendorDirectories, .source, .interval, .timeout, .lowercaseFirst, .prune,
   .untranslated, .service]

/-- The setting with a name. -/
def field? : String → Option Field
  | "localePath" => some .localePath
  | "namespaces" | "ns" => some .namespaces
  | "sourceLanguage" => some .sourceLanguage
  | "targetLanguage" => some .targetLanguage
  | "defaultLanguage" => some .keyLanguage
  | "markerVariable" | "targetVariable" => some .marker
  | "includes" => some .includes
  | "ignores" => some .ignores
  | "vendorDirs" => some .vendorDirectories
  | "parser" => some .source
  | "intervalMs" => some .interval
  | "timeoutMs" | "timeout" => some .timeout
  | "lowercaseFirst" => some .lowercaseFirst
  | "removeUnusedKeys" => some .prune
  | "untranslatedValue" => some .untranslated
  | "provider" => some .service
  | _ => none

/-- Reads a list of texts. -/
def readTexts : Json.Reader (List String) := Reader.array Reader.text

/-- Reads a setting. -/
def readField (field : Field) (settings : Settings) : Json.Reader Settings := do
  match field with
  | .localePath => pure { settings with localePath := ← Reader.optional Reader.text }
  | .namespaces => pure { settings with namespaces := ← readTexts }
  | .sourceLanguage => pure { settings with sourceLanguage := ← Reader.text }
  | .targetLanguage => pure { settings with targetLanguage := ← Reader.text }
  | .keyLanguage => pure { settings with keyLanguage := ← Reader.named KeyLanguage.named? }
  | .marker => pure { settings with marker := ← Reader.text }
  | .includes => pure { settings with includes := ← readTexts }
  | .ignores => pure { settings with ignores := ← readTexts }
  | .vendorDirectories => pure { settings with vendorDirectories := ← readTexts }
  | .source => pure { settings with source := ← Reader.named CallSource.named? }
  | .interval => pure { settings with interval := ← Reader.natural }
  | .timeout => pure { settings with timeout := ← Reader.natural }
  | .lowercaseFirst => pure { settings with lowercaseFirst := ← Reader.bool }
  | .prune => pure { settings with prune := ← Reader.bool }
  | .untranslated => pure { settings with untranslated := ← Reader.text }
  | .service => do
    let service ← Reader.fields serviceFields serviceField? readServiceField {}
    pure { settings with service }

/-- Reads settings. -/
def reader : Json.Reader Settings := Reader.fields fieldOrder field? readField {}

/-- The settings with a text. -/
def ofText (text : String) : Except Json.Defect Settings := reader.run text

end Phrasebook.Settings
