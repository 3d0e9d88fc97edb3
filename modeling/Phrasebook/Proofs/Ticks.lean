import Phrasebook.Proofs.Session

/-!
# When ticks fire

Ticks are waited for one after the other, each some time after the one before has fired. A tick
fires at its deadline, or at once if that has passed. The deadline then moves on by a period at
least, and to a period after the tick, but for what the tick may be late. So ticks that were missed
do not come in a burst, however long the work between them takes.

The clock of a session counts milliseconds. What holds of its ticks holds on a clock with any number
of steps to the millisecond, so that the work between two ticks may take any time.

Results:
* `Ticker.le_of_firings`: no tick fires before its turn.
* `Ticker.spaced_of_firings`: two ticks are a period apart, but for what the first may be late.
* `Ticker.eq_of_inTime`: ticks that are all waited for in time fire period by period.
* `SessionAction.runOn_awaitAll`: the ticks of a session fire when those of its ticker do.
* `SessionAction.paces_awaitAll`: all three for the ticks of a session, from the start of its ticker
  on.
-/

namespace Phrasebook

namespace Ticker

/-! ## One tick -/

section

variable (ticker : Ticker) {now : Nat}

theorem deadline_le_fireTime (now : Nat) : ticker.deadline ≤ ticker.fireTime now :=
  Nat.le_max_right _ _

/-- The next deadline is a period after this one, or later. -/
theorem deadline_add_period_le (now : Nat) :
    ticker.deadline + ticker.period ≤ (ticker.fired now).deadline := by
  have hfire := ticker.deadline_le_fireTime now
  unfold fired
  dsimp only
  split <;> omega

/-- The next deadline is a period after the tick, but for what that may be late. -/
theorem fireTime_add_period_le (now : Nat) :
    ticker.fireTime now + ticker.period ≤ (ticker.fired now).deadline + ticker.tolerance := by
  unfold fired
  dsimp only
  split <;> omega

/-- A tick that is waited for in time fires at its deadline. -/
theorem fireTime_of_le (h : now ≤ ticker.deadline) : ticker.fireTime now = ticker.deadline :=
  Nat.max_eq_right h

/-- A tick that is waited for in time moves the deadline by a period. -/
theorem fired_of_le (h : now ≤ ticker.deadline) :
    ticker.fired now = { ticker with deadline := ticker.deadline + ticker.period } := by
  unfold fired
  dsimp only
  rw [ticker.fireTime_of_le h, if_neg (Nat.not_lt.2 (Nat.le_add_right _ _))]

end

/-! ## Many ticks -/

/-- When the ticks fire that are waited for some time after the one before has fired. -/
def firings (ticker : Ticker) (now : Nat) : List Nat → List Nat
  | [] => []
  | delay :: delays =>
    ticker.fireTime (now + delay)
      :: firings (ticker.fired (now + delay)) (ticker.fireTime (now + delay)) delays

/-- No tick is waited for after its deadline. -/
def InTime (ticker : Ticker) (now : Nat) : List Nat → Prop
  | [] => True
  | delay :: delays =>
    now + delay ≤ ticker.deadline
      ∧ InTime (ticker.fired (now + delay)) (ticker.fireTime (now + delay)) delays

variable {ticker : Ticker} {now n : Nat} {delays : List Nat}

theorem length_firings (ticker : Ticker) (now : Nat) (delays : List Nat) :
    (ticker.firings now delays).length = delays.length := by
  induction delays generalizing ticker now with
  | nil => rfl
  | cons delay delays ih => exact congrArg Nat.succ (ih _ _)

/-- **No tick fires before its turn.** -/
theorem le_of_firings {time : Nat} (h : (ticker.firings now delays)[n]? = some time) :
    ticker.deadline + n * ticker.period ≤ time := by
  induction delays generalizing ticker now n with
  | nil => cases h
  | cons delay delays ih =>
    cases n with
    | zero =>
      obtain rfl := Option.some.inj h
      rw [Nat.zero_mul]
      exact ticker.deadline_le_fireTime _
    | succ n =>
      have hrest := ih h
      have hnext := ticker.deadline_add_period_le (now + delay)
      calc ticker.deadline + (n + 1) * ticker.period
          = ticker.deadline + ticker.period + n * ticker.period := by rw [Nat.succ_mul]; omega
        _ ≤ (ticker.fired (now + delay)).deadline + n * ticker.period :=
            Nat.add_le_add_right hnext _
        _ ≤ time := hrest

/-- **Two ticks are a period apart**, but for what the first may be late. -/
theorem spaced_of_firings {first second : Nat}
    (hfirst : (ticker.firings now delays)[n]? = some first)
    (hsecond : (ticker.firings now delays)[n + 1]? = some second) :
    first + ticker.period ≤ second + ticker.tolerance := by
  induction delays generalizing ticker now n with
  | nil => cases hfirst
  | cons delay delays ih =>
    cases n with
    | zero =>
      obtain rfl := Option.some.inj hfirst
      have hdue := le_of_firings (n := 0) hsecond
      have hnext := ticker.fireTime_add_period_le (now + delay)
      rw [Nat.zero_mul] at hdue
      exact Nat.le_trans hnext (Nat.add_le_add_right hdue _)
    | succ n =>
      rw [firings, List.getElem?_cons_succ] at hfirst hsecond
      have hlater := ih hfirst hsecond
      exact hlater

/-- **Ticks that are all waited for in time** fire period by period. -/
theorem eq_of_inTime (h : ticker.InTime now delays) (hn : n < delays.length) :
    (ticker.firings now delays)[n]? = some (ticker.deadline + n * ticker.period) := by
  induction delays generalizing ticker now n with
  | nil => cases hn
  | cons delay delays ih =>
    obtain ⟨hle, hrest⟩ := h
    cases n with
    | zero =>
      rw [Nat.zero_mul]
      exact congrArg some (ticker.fireTime_of_le hle)
    | succ n =>
      have hlater := ih hrest (Nat.lt_of_succ_lt_succ hn)
      rw [ticker.fired_of_le hle] at hlater
      have htime : ticker.deadline + (n + 1) * ticker.period
          = ticker.deadline + ticker.period + n * ticker.period := by rw [Nat.succ_mul]; omega
      rw [htime, ← hlater, ← ticker.fired_of_le hle]
      rfl

end Ticker

/-! ## The ticks of a session -/

namespace SessionAction

open Ticker

/-- Waits for ticks, each some time after the one before has fired, and gives the times when they
fire. -/
def awaitAll : List Nat → SessionAction (List Nat)
  | [] => pure []
  | delay :: delays => do
    wait delay
    awaitTick
    let time := (← session).now
    pure (time :: (← awaitAll delays))

/-- **The ticks of a session** fire when those of its ticker do. -/
theorem runOn_awaitAll (delays : List Nat) (before : Session) :
    ((awaitAll delays).runOn before).1 = .ok (before.ticker.firings before.now delays) := by
  induction delays generalizing before with
  | nil => rfl
  | cons delay delays ih =>
    rw [awaitAll, runOn_bind_of_runOn (runOn_wait delay before), awaitTick,
      runOn_bind_of_runOn (runOn_modify _ _), runOn_bind_of_runOn (runOn_session _),
      runOn_bind_of_runOn (Prod.ext (ih _) rfl)]
    rfl

/-- **Ticks never burst.** In a session whose ticker starts now, with a period of some milliseconds
and on a clock with some steps to the millisecond, every tick that is waited for fires, when its
ticker does: the `n`-th not before `n` periods have passed, and two of them a period less five
milliseconds apart, however long each is waited for after the one before. If none is waited for
after its deadline, the `n`-th fires when `n` periods have passed. -/
theorem paces_awaitAll (steps period : Nat) (before : Session) (delays : List Nat) :
    let ticker := startOn steps before.now period
    let times := ticker.firings before.now delays
    ((awaitAll delays).runOn { before with ticker }).1 = .ok times
      ∧ times.length = delays.length
      ∧ (∀ n time, times[n]? = some time → before.now + (n + 1) * (period * steps) ≤ time)
      ∧ (∀ n first second, times[n]? = some first → times[n + 1]? = some second →
          first + period * steps ≤ second + 5 * steps)
      ∧ (ticker.InTime before.now delays → ∀ n < delays.length,
          times[n]? = some (before.now + (n + 1) * (period * steps))) := by
  intro ticker times
  have hturn : ∀ n, before.now + (n + 1) * (period * steps)
      = ticker.deadline + n * ticker.period := by
    intro n
    show _ = before.now + period * steps + n * (period * steps)
    rw [Nat.succ_mul]
    omega
  refine ⟨runOn_awaitAll delays { before with ticker }, length_firings _ _ _,
    fun n time htime => ?_, fun n first second hfirst hsecond => spaced_of_firings hfirst hsecond,
    fun hin n hn => ?_⟩
  · rw [hturn]
    exact le_of_firings htime
  · rw [hturn]
    exact eq_of_inTime hin hn

/-- With a period of five seconds, the tick after one that is seven seconds late comes a period
later; ticks that are waited for in time come every five seconds. -/
theorem paces_small_awaitAll :
    ((awaitAll [0, 12000, 0]).runOn (Project.smallStart [])).1 = .ok [5000, 17000, 22000]
      ∧ 5000 + 5000 ≤ 17000 + 5 ∧ 17000 + 5000 ≤ 22000 + 5
      ∧ (start 0 5000).InTime 0 [0, 3000, 5000]
      ∧ ((start 0 5000).firings 0 [0, 3000, 5000])[2]? = some 15000 := by
  have hfirings : (start 0 5000).firings 0 [0, 12000, 0] = [5000, 17000, 22000] := by decide
  obtain ⟨htimes, -, -, hspaced, -⟩ :=
    paces_awaitAll 1 5000 (Project.smallStart []) [0, 12000, 0]
  obtain ⟨-, -, -, -, hturns⟩ := paces_awaitAll 1 5000 (Project.smallStart []) [0, 3000, 5000]
  have hin : (start 0 5000).InTime 0 [0, 3000, 5000] := ⟨by decide, by decide, by decide, trivial⟩
  have htick := fun n : Nat => congrArg (·[n]?) hfirings
  exact ⟨htimes.trans (congrArg Except.ok hfirings), hspaced 0 _ _ (htick 0) (htick 1),
    hspaced 1 _ _ (htick 1) (htick 2), hin, hturns hin 2 (by decide)⟩

end SessionAction

end Phrasebook
