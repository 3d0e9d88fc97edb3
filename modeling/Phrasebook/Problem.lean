import Phrasebook.Glob.Pattern
import Phrasebook.Json.Reader
import Phrasebook.Marker
import Phrasebook.Text.Duration

/-!
# What can go wrong

A `Problem` names its cause; `Problem.message` puts it into words. Failed translations are
recoverable, since a later run asks for them again. Every other problem is fatal.

Models the errors of the program (specification, section 7).
-/

namespace Phrasebook

/-! ## Causes -/

/-- What is wrong with settings or with the use of a namespace. -/
inductive SettingsFault where
  | noLocalePath
  | noNamespaces
  | namespaceName (ns : String)
  | sameLanguages (language : String)
  | markerName (marker : String)
  | noInterval
  | ignorePattern (pattern : String) (fault : Glob.Fault)
  | includePattern (pattern : String) (fault : Glob.Fault)
  | unknownNamespace (ns : String) (location : Location)
  | noApiKey (variableName : String)
  /-- Stated by whoever uses the library. -/
  | stated (text : String)
  deriving DecidableEq, Repr

/-- Why a phrase was not translated. -/
inductive TranslationFailure where
  /-- The service could not be asked. -/
  | unreachable
  /-- The service answered with another status than success. -/
  | status (code : Nat) (body : String)
  /-- The answer of the service makes no sense. -/
  | invalid (reason : String)
  /-- The translation is blank. -/
  | blank
  deriving DecidableEq, Repr

/-- Why a file could not be read or written. -/
inductive FileFault where
  | notFound
  | notDirectory
  | isDirectory
  | alreadyExists
  /-- A name of the path, or the whole path, is too long. -/
  | nameTooLong
  /-- The path holds a null character, which would end it. -/
  | nullInPath
  /-- The content is no text. -/
  | notText
  /-- The disk takes no more. -/
  | noSpace
  deriving DecidableEq, Repr

/-- A problem. -/
inductive Problem where
  | settings (fault : SettingsFault)
  /-- A phrase has no key, and must have one. -/
  | untranslated (phrase ns : String) (location : Location)
  | translation (failure : TranslationFailure)
  /-- The translations of a batch took longer than the given milliseconds. -/
  | timeout (milliseconds : Nat)
  /-- A file holds no catalog. -/
  | catalog (path : String) (defect : Json.Defect)
  /-- A file holds no script. -/
  | script (path : String) (detail? : Option String)
  | file (path : String) (fault : FileFault)
  deriving DecidableEq, Repr

/-! ## Words -/

/-- A text in double quotes, as it is. -/
def quoted (text : String) : String := "\"" ++ text ++ "\""

/-- A location as text. -/
def Location.text (location : Location) : String :=
  location.file ++ ":" ++ toString location.line ++ ":" ++ toString location.column

/-- The class of a defect. -/
def Json.Defect.text : Json.Defect → String
  | .malformed => "syntax"
  | .mismatched => "data"
  | .truncated => "eof"

/-- A fault in words. -/
def SettingsFault.text : SettingsFault → String
  | .noLocalePath => "'localePath' is required"
  | .noNamespaces => "'namespaces' must list at least one namespace"
  | .namespaceName ns =>
    "invalid namespace " ++ quoted ns ++ ": must be non-empty and must not contain ':'"
  | .sameLanguages language =>
    "'sourceLanguage' and 'targetLanguage' are both " ++ quoted language
  | .markerName marker => "'markerVariable' must be an identifier, got " ++ quoted marker
  | .noInterval => "'intervalMs' must be greater than 0"
  | .ignorePattern pattern fault =>
    "Invalid glob pattern in 'ignores': " ++ quoted pattern ++ " (" ++ fault.text ++ ")"
  | .includePattern pattern fault =>
    "Invalid glob pattern in 'includes': " ++ quoted pattern ++ " (" ++ fault.text ++ ")"
  | .unknownNamespace ns location =>
    "namespace " ++ quoted ns ++ " used at " ++ location.text ++ " is not configured"
  | .noApiKey variableName =>
    "the google provider needs an API key in the " ++ variableName ++ " environment variable"
  | .stated text => text

/-- A failure in words. -/
def TranslationFailure.text : TranslationFailure → String
  | .unreachable => "translation request failed"
  | .status code body => "translation service returned " ++ toString code ++ ": " ++ body
  | .invalid reason => "invalid translation response: " ++ reason
  | .blank => "translation service returned an empty result"

/-- A fault in the words of the operating system. -/
def FileFault.text : FileFault → String
  | .notFound => "No such file or directory (os error 2)"
  | .notDirectory => "Not a directory (os error 20)"
  | .isDirectory => "Is a directory (os error 21)"
  | .alreadyExists => "File exists (os error 17)"
  | .nameTooLong => "File name too long (os error 36)"
  | .nullInPath => "file name contained an unexpected NUL byte"
  | .notText => "stream did not contain valid UTF-8"
  | .noSpace => "No space left on device (os error 28)"

namespace Problem

/-- A problem in words. -/
def message : Problem → String
  | .settings fault => "configuration error: " ++ fault.text
  | .untranslated phrase ns location =>
    "missing translation for " ++ quoted phrase ++ " in namespace " ++ quoted ns ++ " at "
      ++ location.text
  | .translation failure => failure.text
  | .timeout milliseconds => "translation batch timed out after " ++ Text.duration milliseconds
  | .catalog path defect => "corrupt resource file " ++ path ++ ": " ++ defect.text
  | .script path detail? =>
    "failed to parse " ++ path ++ ((detail?.map (": " ++ ·)).getD "")
  | .file path fault => "I/O error on " ++ path ++ ": " ++ fault.text

/-- The problem ends a run. -/
def isFatal : Problem → Bool
  | .translation _ => false
  | .timeout _ => false
  | _ => true

end Problem

end Phrasebook
