import Phrasebook.Json.Value

/-!
# Form text

A text in the query of an address. Letters, digits and `*-._` stand for themselves, a plus sign
for a space, and a percent sign with two hexadecimal digits for every other byte.

Models how the key of a provider is put into its address.
-/

namespace Phrasebook.Text

/-- An ASCII character that stands for itself. -/
def isFormPlain (c : Char) : Bool :=
  c.isAlphanum || c == '*' || c == '-' || c == '.' || c == '_'

/-- A byte in the query of an address. -/
def formByte (byte : UInt8) : List Char :=
  let c := Char.ofNat byte.toNat
  if byte.toNat < 0x80 && isFormPlain c then [c]
  else if c = ' ' then ['+']
  else
    ['%', (Json.hexDigit (byte.toNat / 16)).toUpper, (Json.hexDigit (byte.toNat % 16)).toUpper]

/-- A text in the query of an address. -/
def formText (text : String) : String :=
  String.ofList (text.toUTF8.toList.flatMap formByte)

end Phrasebook.Text
