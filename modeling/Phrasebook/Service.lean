import Phrasebook.Json.Reader
import Phrasebook.Settings
import Phrasebook.Text.Blank
import Phrasebook.Text.FormText
import Phrasebook.Text.Utf8
import Phrasebook.Translator

/-!
# Translation services

A service translates one phrase a request. The request is a JSON text that is posted to an
address, and the response holds the translation in a JSON text of the service's own shape. How
requests are carried is left to an `Exchange`.

Models the translation providers (specification, section 6a).
-/

namespace Phrasebook

/-! ## Requests and responses -/

/-- A text that is posted to an address. -/
structure ServiceRequest where
  address : String
  body : String
  deriving DecidableEq, Repr

/-- The response to a request. -/
structure ServiceResponse where
  status : Nat
  body : List UInt8
  deriving DecidableEq, Repr

/-- What carries requests. There is no response from a service that cannot be reached. -/
abbrev Exchange := ServiceRequest → Option ServiceResponse

/-- The environment variables. -/
abbrev Environment := String → Option String

/-- The service did what it was asked for. -/
def ServiceResponse.isSuccess (response : ServiceResponse) : Bool :=
  200 ≤ response.status && response.status < 300

/-- What a service wants to know before it translates. -/
inductive ServiceAccess where
  | libre (apiKey? : Option String)
  | google (apiKey : String)
  deriving DecidableEq, Repr

/-- A service that is ready to translate between two languages. -/
structure Service where
  access : ServiceAccess
  endpoint : String
  sourceLanguage : String
  targetLanguage : String
  deriving DecidableEq, Repr

namespace ServiceKind

/-- Where a service usually is. -/
def usualEndpoint : ServiceKind → String
  | .libre => "https://libretranslate.com/translate"
  | .google => "https://translation.googleapis.com/language/translate/v2"

end ServiceKind

namespace Service

/-- The environment variable that usually holds the key of the google service. -/
def usualKeyVariable : String := "GOOGLE_TRANSLATE_API_KEY"

/-- The access to a service, with its key from the environment. Only the google service has to
have one. -/
def accessOf (settings : ServiceSettings) (environment : Environment) :
    Except Problem ServiceAccess :=
  match settings.kind with
  | .libre => .ok (.libre (settings.apiKeyVariable.bind environment))
  | .google =>
    let variableName := settings.apiKeyVariable.getD usualKeyVariable
    match (environment variableName).filter (!Text.isBlankText ·) with
    | some key => .ok (.google key)
    | none => .error (.settings (.noApiKey variableName))

/-- The service of a project. -/
def ofSettings (settings : Settings) (environment : Environment) : Except Problem Service :=
  (accessOf settings.service environment).map fun access =>
    ⟨access, settings.service.endpoint.getD settings.service.kind.usualEndpoint,
      settings.sourceLanguage, settings.targetLanguage⟩

/-- The kind of a service. -/
def kind (service : Service) : ServiceKind :=
  match service.access with
  | .libre _ => .libre
  | .google _ => .google

/-! ## Asking -/

/-- An address with one more entry in its query. -/
def addQuery (address name value : String) : String :=
  address ++ (if address.toList.contains '?' then "&" else "?") ++ name ++ "="
    ++ Text.formText value

/-- The phrase of a request, which the google service takes in a list. -/
def queryJson (service : Service) (phrase : String) : Json.Value :=
  match service.access with
  | .libre _ => .text phrase
  | .google _ => .array [.text phrase]

/-- The key in the body of a request. The google service has it in the address. -/
def keyEntry (service : Service) : List (String × Json.Value) :=
  match service.access with
  | .libre (some key) => [("api_key", .text key)]
  | _ => []

/-- The request for the translation of a phrase. -/
def request (service : Service) (phrase : String) : ServiceRequest where
  address :=
    match service.access with
    | .libre _ => service.endpoint
    | .google key => addQuery service.endpoint "key" key
  body :=
    (Json.Value.object
      ([("q", service.queryJson phrase), ("source", .text service.sourceLanguage),
        ("target", .text service.targetLanguage), ("format", .text "text")]
        ++ service.keyEntry)).compact

/-! ## Understanding -/

/-- A value with one field that is read; it must be there. -/
def onlyField {α : Type} (name : String) (reader : Json.Reader α) : Json.Reader α := do
  let found? ← Json.Reader.fields [()] (fun other => if other = name then some () else none)
    (fun _ _ => some <$> reader) (none : Option α)
  match found? with
  | some found => pure found
  | none => throw .mismatched

/-- A translation. -/
def readTranslation : Json.Reader String := onlyField "translatedText" Json.Reader.text

/-- The translations in a response, of which the first counts. -/
def readTranslations (service : Service) : Json.Reader (List String) :=
  match service.access with
  | .libre _ => List.singleton <$> readTranslation
  | .google _ => onlyField "data" (onlyField "translations" (Json.Reader.array readTranslation))

/-- The translations in the body of a response. -/
def translationsIn (service : Service) (body : List UInt8) :
    Except TranslationFailure (List String) :=
  match (Text.strictText? body).map service.readTranslations.run with
  | some (.ok found) => .ok found
  | _ => .error (.invalid "error decoding response body")

/-- The translation in a response. -/
def translation (service : Service) (response : ServiceResponse) :
    Except TranslationFailure String := do
  if !response.isSuccess then throw (.status response.status (Text.lenientText response.body))
  match ← service.translationsIn response.body with
  | [] => throw (.invalid "missing 'data.translations' entry")
  | first :: _ => if Text.isBlankText first then throw .blank else pure first

/-- The translation of a phrase. -/
def translate (service : Service) (exchange : Exchange) (phrase : String) :
    Except TranslationFailure String :=
  match exchange (service.request phrase) with
  | none => .error .unreachable
  | some response => service.translation response

/-- The service as a translator that answers at once. -/
def translator (service : Service) (exchange : Exchange) : Translator :=
  fun phrase => ⟨0, service.translate exchange phrase⟩

end Service

end Phrasebook
