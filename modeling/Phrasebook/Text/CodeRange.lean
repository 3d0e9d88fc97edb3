/-!
# Classes of characters given by code point ranges

A class of the Unicode character database is a list of closed ranges of code points.
-/

namespace Phrasebook.Text

/-- Closed ranges of code points, in increasing order. -/
abbrev CodeRanges := List (Nat × Nat)

namespace CodeRanges

/-- A code point lies in one of the ranges. -/
def has (ranges : CodeRanges) (code : Nat) : Bool :=
  ranges.any fun range => range.1 ≤ code && code ≤ range.2

end CodeRanges

end Phrasebook.Text
