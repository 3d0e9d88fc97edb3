/-!
# Durations

A duration in milliseconds is written in milliseconds below one second, and from there on in
seconds with the fewest decimals that give it exactly.

Models how the error texts show a time.
-/

namespace Phrasebook.Text

/-- The three decimals of a thousandth part, without zeros at the end. -/
def thousandths (value : Nat) : String :=
  let digits := [value / 100 % 10, value / 10 % 10, value % 10]
  let kept := (digits.reverse.dropWhile (· == 0)).reverse
  if kept.isEmpty then "" else "." ++ String.join (kept.map toString)

/-- A duration in milliseconds as text. -/
def duration (milliseconds : Nat) : String :=
  if milliseconds = 0 then "0ns"
  else if milliseconds < 1000 then toString milliseconds ++ "ms"
  else toString (milliseconds / 1000) ++ thousandths (milliseconds % 1000) ++ "s"

end Phrasebook.Text
