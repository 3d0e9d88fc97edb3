/-!
# White space

White space is the Unicode property of that name.
-/

namespace Phrasebook.Text

/-- White space of all scripts, line ends included. -/
def isBlank (c : Char) : Bool :=
  (9 ≤ c.toNat && c.toNat ≤ 13) || c.toNat == 0x20 || c.toNat == 0x85 || c.toNat == 0xA0
    || c.toNat == 0x1680 || (0x2000 ≤ c.toNat && c.toNat ≤ 0x200A) || c.toNat == 0x2028
    || c.toNat == 0x2029 || c.toNat == 0x202F || c.toNat == 0x205F || c.toNat == 0x3000

/-- A text of white space only. -/
def isBlankText (text : String) : Bool :=
  text.toList.all isBlank

end Phrasebook.Text
