/-!
# Ticks

A ticker fires once a period. A tick that is waited for after its deadline fires at once; if it is
late by more than a tolerance, the next period starts when it fires, so that missed ticks do not
come in a burst, and otherwise at its deadline. Times are in the steps of a clock, which are
milliseconds for the clock of a session.

Models the interval of the scheduler (specification, section 5).
-/

namespace Phrasebook

/-- A ticker and the deadline of its next tick. -/
structure Ticker where
  period : Nat
  deadline : Nat
  /-- How late a tick may be without moving the ticks after it. -/
  tolerance : Nat
  deriving DecidableEq, Repr

namespace Ticker

/-- A ticker that first fires one period of milliseconds from now, on a clock with some steps to the
millisecond. A tick may be late by five milliseconds. -/
def startOn (steps now period : Nat) : Ticker :=
  ⟨period * steps, now + period * steps, 5 * steps⟩

/-- A ticker that first fires one period from now, on a clock of milliseconds. -/
def start (now period : Nat) : Ticker := startOn 1 now period

/-- When the next tick fires, if it is waited for from now on. -/
def fireTime (ticker : Ticker) (now : Nat) : Nat := max now ticker.deadline

/-- The ticker after its next tick, if that is waited for from now on. -/
def fired (ticker : Ticker) (now : Nat) : Ticker :=
  let time := ticker.fireTime now
  { ticker with
    deadline :=
      if time > ticker.deadline + ticker.tolerance then time + ticker.period
      else ticker.deadline + ticker.period }

end Ticker

end Phrasebook
