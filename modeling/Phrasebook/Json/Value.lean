/-!
# JSON values and their text

`Value.compact` writes a value without white space, `Value.pretty` with one entry a line and two
spaces a level. Object entries are written in their order.

Models the printer of the JSON library.
-/

namespace Phrasebook.Json

/-- A JSON value. Numbers are natural. -/
inductive Value where
  | null
  | bool (value : Bool)
  | number (value : Nat)
  | text (value : String)
  | array (items : List Value)
  | object (entries : List (String × Value))
  deriving Inhabited

/-- A hexadecimal digit. -/
def hexDigit (value : Nat) : Char :=
  if value < 10 then Char.ofNat (48 + value) else Char.ofNat (87 + value)

/-- A character inside a quoted text. -/
def escape (c : Char) : List Char :=
  if c = '"' then ['\\', '"']
  else if c = '\\' then ['\\', '\\']
  else if c = '\n' then ['\\', 'n']
  else if c = '\r' then ['\\', 'r']
  else if c = '\t' then ['\\', 't']
  else if c.toNat = 8 then ['\\', 'b']
  else if c.toNat = 12 then ['\\', 'f']
  else if c.toNat < 32 then
    ['\\', 'u', '0', '0', hexDigit (c.toNat / 16), hexDigit (c.toNat % 16)]
  else [c]

/-- A text in quotes. -/
def quote (text : String) : String :=
  String.ofList ('"' :: text.toList.flatMap escape ++ ['"'])

/-- An opening brace as text. -/
def openObject : String := "\x7b"

/-- A closing brace as text. -/
def closeObject : String := "\x7d"

/-- A line end and the indentation of a level. -/
def lineBreak (level : Nat) : String := "\n" ++ String.ofList (List.replicate (2 * level) ' ')

/-- Items between brackets, each on a line of its own. -/
def bracketedLines (opening closing : String) (level : Nat) (items : List String) : String :=
  if items.isEmpty then opening ++ closing
  else
    opening ++ lineBreak (level + 1)
      ++ String.intercalate ("," ++ lineBreak (level + 1)) items
      ++ lineBreak level ++ closing

namespace Value

mutual

/-- The text without white space. -/
def compact : Value → String
  | .null => "null"
  | .bool value => if value then "true" else "false"
  | .number value => toString value
  | .text value => quote value
  | .array items => "[" ++ String.intercalate "," (compactItems items) ++ "]"
  | .object entries =>
    openObject ++ String.intercalate "," (compactEntries entries) ++ closeObject

/-- The texts of array items. -/
def compactItems : List Value → List String
  | [] => []
  | item :: rest => item.compact :: compactItems rest

/-- The texts of object entries. -/
def compactEntries : List (String × Value) → List String
  | [] => []
  | (key, value) :: rest => (quote key ++ ":" ++ value.compact) :: compactEntries rest

end

mutual

/-- The text with one entry a line, inside `level` brackets. -/
def prettyAt : Nat → Value → String
  | _, .null => "null"
  | _, .bool value => if value then "true" else "false"
  | _, .number value => toString value
  | _, .text value => quote value
  | level, .array items => bracketedLines "[" "]" level (prettyItems (level + 1) items)
  | level, .object entries =>
    bracketedLines openObject closeObject level (prettyEntries (level + 1) entries)

/-- The texts of array items. -/
def prettyItems : Nat → List Value → List String
  | _, [] => []
  | level, item :: rest => item.prettyAt level :: prettyItems level rest

/-- The texts of object entries. -/
def prettyEntries : Nat → List (String × Value) → List String
  | _, [] => []
  | level, (key, value) :: rest =>
    (quote key ++ ": " ++ value.prettyAt level) :: prettyEntries level rest

end

/-- The text with one entry a line. -/
def pretty (value : Value) : String := value.prettyAt 0

end Value

end Phrasebook.Json
