import Phrasebook.HostAction

/-!
# Scheduled flushes

A run flushes on every tick until it is stopped. What comes before and after each flush is up to a
host, which may keep something of its own. Recoverable problems of a flush do not end the run;
fatal ones do, and so does every problem of the host.

Models the scheduler (specification, section 5).
-/

namespace Phrasebook

/-- What comes before and after each flush. -/
structure Host (σ : Type) where
  beforeFlush : HostAction σ Unit
  afterFlush : Flush → HostAction σ Unit

namespace Schedule

open HostAction

variable {σ : Type}

/-- A flush between what comes before and after it. -/
def flushBetween (host : Host σ) (flush : SessionAction Flush) : HostAction σ Unit := do
  host.beforeFlush
  match ← attempt (onSession flush) with
  | .ok report => host.afterFlush report
  | .error problem => if problem.isFatal then throw problem

/-- Waits for the next tick and flushes. -/
def tick (host : Host σ) (flush : SessionAction Flush) : HostAction σ Unit := do
  onSession SessionAction.awaitTick
  flushBetween host flush

/-- Flushes on the ticks before a time, at most a number of them. -/
def runFor (host : Host σ) (flush : SessionAction Flush) (stop : Nat) : Nat → HostAction σ Unit
  | 0 => pure ()
  | ticks + 1 => do
    let session ← session
    if stop ≤ session.ticker.fireTime session.now then
      onSession (SessionAction.waitUntil stop)
    else
      tick host flush
      runFor host flush stop ticks

/-- Flushes on the ticks before a time. Each tick moves the deadline by a period or more, so that
there are at most as many as milliseconds left. -/
def runUntil (host : Host σ) (flush : SessionAction Flush) (stop : Nat) : HostAction σ Unit := do
  runFor host flush stop (stop + 1 - (← session).ticker.deadline + 1)

end Schedule

end Phrasebook
