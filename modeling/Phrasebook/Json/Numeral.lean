/-!
# Numbers in JSON

A number is kept as it is written. Its magnitude is judged as a binary number of double width
shows it: the leading digits that fit 64 bits make a whole number, the others only count, and the
product with the power of ten is rounded once more.

Models the numbers of the JSON library that documents, settings and responses are read with.
-/

namespace Phrasebook.Json

/-- A number as it is written. -/
structure Numeral where
  negative : Bool
  whole : List Char
  fraction : List Char
  exponent? : Option Int

/-- A value with one more decimal digit. -/
def appendDigit (value : Nat) (c : Char) : Nat := value * 10 + (c.toNat - 48)

/-- The value of decimal digits. -/
def digitsValue (text : List Char) : Nat := text.foldl appendDigit 0

/-- The least number that does not fit 64 bits. -/
def wordBound : Nat := Nat.pow 2 64

/-- Appends digits for as long as the value fits 64 bits, and counts the digits left over. -/
def appendWithinWord (value : Nat) : List Char → Nat × Nat
  | [] => (value, 0)
  | c :: rest =>
    if appendDigit value c < wordBound then appendWithinWord (appendDigit value c) rest
    else (value, rest.length + 1)

/-- The nearest number with 53 significant bits; a tie goes to the even one. -/
def nearestBinary (value : Nat) : Nat :=
  let unit := Nat.pow 2 (value.log2 - 52)
  let quotient := value / unit
  let remainder := value % unit
  let up := unit < 2 * remainder || (2 * remainder == unit && quotient % 2 == 1)
  (if up then quotient + 1 else quotient) * unit

/-- The least number that is rounded to infinity. -/
def overflowBound : Nat := Nat.pow 2 1024 - Nat.pow 2 970

namespace Numeral

/-- The number lies beyond the greatest binary number of double width. -/
def isHuge (number : Numeral) : Bool :=
  let (leading, wholeLeft) := appendWithinWord 0 number.whole
  let (significand, fractionLeft) := appendWithinWord leading number.fraction
  let power : Int :=
    number.exponent?.getD 0 + wholeLeft - (number.fraction.length - fractionLeft : Nat)
  significand != 0 && (308 < power || (0 ≤ power
    && overflowBound ≤ nearestBinary significand * nearestBinary (Nat.pow 10 power.toNat)))

/-- The number as a natural number of 64 bits. -/
def natural? (number : Numeral) : Option Nat :=
  let value := digitsValue number.whole
  if number.negative || !number.fraction.isEmpty || number.exponent?.isSome || value ≥ wordBound then
    none
  else some value

end Numeral

end Phrasebook.Json
