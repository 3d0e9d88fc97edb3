/-!
# Translation keys

A reference names a key and its namespace with a colon between them, so a colon inside a key is
escaped. `Key.escape` and `Key.unescape` work on the characters of a text.

Models the escaping of keys and the key of a reference (specification, sections 3, 4.2 and 4.3).
-/

namespace Phrasebook

namespace Key

/-- What stands between a namespace and a key in a reference. -/
def separator : Char := ':'

/-- What stands for the separator inside a key. -/
def escapedSeparator : List Char := ['&', '#', '5', '8', ';']

/-- The namespace of marker calls without one, which references leave out. -/
def defaultNamespace : String := "default"

/-- The characters of a text as a key. -/
def escapeChars (text : List Char) : List Char :=
  text.flatMap fun c => if c = separator then escapedSeparator else [c]

/-- The characters of the text that a key stands for. -/
def unescapeChars : List Char → List Char
  | '&' :: '#' :: '5' :: '8' :: ';' :: rest => separator :: unescapeChars rest
  | [] => []
  | c :: rest => c :: unescapeChars rest

/-- The text as a key. -/
def escape (text : String) : String := String.ofList (escapeChars text.toList)

/-- The text that a key stands for. -/
def unescape (key : String) : String := String.ofList (unescapeChars key.toList)

/-- How code refers to a key: by the key alone in the default namespace. -/
def reference (ns key : String) : String :=
  if ns = defaultNamespace then key else ns ++ String.singleton separator ++ key

end Key

/-- The language whose text forms the keys. -/
inductive KeyLanguage where
  /-- Keys are escaped translations; the source catalog gives each its phrase. -/
  | target
  /-- Keys are escaped phrases. -/
  | source
  deriving DecidableEq, Repr, Inhabited

end Phrasebook
