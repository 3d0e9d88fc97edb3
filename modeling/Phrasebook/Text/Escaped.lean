import Phrasebook.Text.GraphemeExtend
import Phrasebook.Text.Printable

/-!
# Texts with every character visible

A text in which quotes, backslashes and line ends are escaped, and every character that does not
show itself, or joins the sign before it, stands as its code point.

Models how the error texts show a text.
-/

namespace Phrasebook.Text

/-- A character as its code point in hexadecimal digits. -/
def codePointEscape (c : Char) : String :=
  "\\u\x7b" ++ String.ofList (Nat.toDigits 16 c.toNat) ++ "\x7d"

/-- A character, visible by itself. -/
def escapedChar (c : Char) : String :=
  match c with
  | '\x00' => "\\0"
  | '\t' => "\\t"
  | '\r' => "\\r"
  | '\n' => "\\n"
  | '\\' => "\\\\"
  | '"' => "\\\""
  | '\'' => "\\'"
  | _ =>
    if graphemeExtendRanges.has c.toNat || !isPrintable c then codePointEscape c
    else c.toString

/-- A text with every character visible. -/
def escaped (text : String) : String := String.join (text.toList.map escapedChar)

end Phrasebook.Text
