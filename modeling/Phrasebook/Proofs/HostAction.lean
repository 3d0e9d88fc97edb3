import Phrasebook.Command.Desk
import Phrasebook.Proofs.Session

/-!
# Runs of hosts

A step of a host is peeled apart like a step of a session, with what the host keeps beside it.

Results:
* `HostAction.exists_of_runOn_bind`: both steps of a successful action are successful.
* `HostAction.runOn_onSession`, `HostAction.runOn_attempt`, `Desk.runOn_work`: what the steps give
  that all commands are made of.
-/

namespace Phrasebook

namespace HostAction

variable {σ α β : Type} {before after : Session} {kept keptAfter : σ}

theorem exists_of_runOn_bind {action : HostAction σ α} {next : α → HostAction σ β} {result : β}
    (h : runOn (action >>= next) before kept = (.ok result, after, keptAfter)) :
    ∃ value middle keptMiddle, runOn action before kept = (.ok value, middle, keptMiddle)
      ∧ runOn (next value) middle keptMiddle = (.ok result, after, keptAfter) := by
  obtain ⟨value, ⟨middle, keptMiddle⟩, hfirst, hsecond⟩ := exists_of_run_bind h
  exact ⟨value, middle, keptMiddle, hfirst, hsecond⟩

theorem runOn_bind_of_runOn {action : HostAction σ α} {next : α → HostAction σ β}
    {middle : Session} {keptMiddle : σ} {value : α}
    (h : runOn action before kept = (.ok value, middle, keptMiddle)) :
    runOn (action >>= next) before kept = runOn (next value) middle keptMiddle := run_bind_of_run h

theorem runOn_bind_of_runOn_error {action : HostAction σ α} {next : α → HostAction σ β}
    {problem : Problem} (h : runOn action before kept = (.error problem, after, keptAfter)) :
    runOn (action >>= next) before kept = (.error problem, after, keptAfter) :=
  run_bind_of_run_error h

theorem runOn_bind_eq_error {action : HostAction σ α} {next : α → HostAction σ β}
    {problem : Problem} (h : runOn (action >>= next) before kept = (.error problem, after, keptAfter)) :
    runOn action before kept = (.error problem, after, keptAfter)
      ∨ ∃ value middle keptMiddle, runOn action before kept = (.ok value, middle, keptMiddle)
        ∧ runOn (next value) middle keptMiddle = (.error problem, after, keptAfter) := by
  rcases run_bind_eq_error h with hfirst | ⟨value, ⟨middle, keptMiddle⟩, hfirst, hsecond⟩
  · exact .inl hfirst
  · exact .inr ⟨value, middle, keptMiddle, hfirst, hsecond⟩

theorem runOn_pure (value : α) (session : Session) (kept : σ) :
    runOn (pure value) session kept = (.ok value, session, kept) := rfl

theorem runOn_session (before : Session) (kept : σ) :
    runOn session before kept = (.ok before, before, kept) := rfl

theorem runOn_kept (session : Session) (before : σ) :
    runOn HostAction.kept session before = (.ok before, session, before) := rfl

theorem runOn_keep (change : σ → σ) (session : Session) (kept : σ) :
    runOn (keep change) session kept = (.ok (), session, change kept) := rfl

theorem runOn_orThrow (found : Except Problem α) (session : Session) (kept : σ) :
    runOn (orThrow found) session kept = (found, session, kept) := by
  cases found <;> rfl

/-- A step in the session leaves what the host keeps alone. -/
theorem runOn_onSession (action : SessionAction α) (session : Session) (kept : σ) :
    runOn (onSession action) session kept
      = ((action.runOn session).1, (action.runOn session).2, kept) := by
  unfold onSession
  rw [runOn_bind_of_runOn (show runOn get session kept = (.ok (session, kept), session, kept) from rfl)]
  dsimp only
  rcases action.runOn session with ⟨found, after⟩
  cases found <;> rfl

/-- An attempt gives what the action gives, a problem included. -/
theorem runOn_attempt (action : HostAction σ α) (session : Session) (kept : σ) :
    runOn (attempt action) session kept
      = (.ok (runOn action session kept).1, (runOn action session kept).2) := by
  have hmap := run_map (Except.ok (ε := Problem)) action (session, kept)
  unfold attempt runOn
  show StateT.run (ExceptT.tryCatch (Except.ok <$> action) _) (session, kept) = _
  unfold ExceptT.tryCatch
  show StateT.run (ExceptT.run (Except.ok <$> action) >>= _) (session, kept) = _
  rw [StateT.run_bind, hmap]
  rcases StateT.run (ExceptT.run action) (session, kept) with ⟨found, after⟩
  cases found <;> rfl

/-- What a step gives, and what is there after it. -/
theorem runOn_eq_mk {action : HostAction σ α} {session : Session} {kept : σ}
    {found : Except Problem α} (h : (runOn action session kept).1 = found) :
    runOn action session kept
      = (found, (runOn action session kept).2.1, (runOn action session kept).2.2) :=
  Prod.ext h rfl

/-- A step that gives a value, and what is there after it. -/
theorem runOn_eq_ok {action : HostAction σ α} {session : Session} {kept : σ} {value : α}
    (h : (runOn action session kept).1.toOption = some value) :
    runOn action session kept = (.ok value, (runOn action session kept).2) :=
  Prod.ext (toOption_eq_some_iff.1 h) rfl

/-- A step that gives no problem, and what is there after it. -/
theorem exists_runOn_eq_ok (action : HostAction σ α) (session : Session) (kept : σ)
    (h : ((runOn action session kept).1.toOption).isSome = true) :
    ∃ value, runOn action session kept = (.ok value, (runOn action session kept).2) := by
  obtain ⟨value, hvalue⟩ := Option.isSome_iff_exists.1 h
  exact ⟨value, runOn_eq_ok hvalue⟩

end HostAction

namespace Desk

open HostAction

variable {α : Type}

/-- **A step of work** gives what it gives in the session, whose notices are told. -/
theorem runOn_work (action : SessionAction α) (session : Session) (desk : Desk) :
    runOn (work action) session desk
      = ((action.runOn session).1, { (action.runOn session).2 with notices := [] },
        { desk with console := desk.console.notice (action.runOn session).2.notices }) := by
  unfold work
  rw [runOn_bind_of_runOn (runOn_attempt _ _ _), runOn_onSession]
  exact runOn_orThrow _ _ _

/-- A step of work leaves the feed alone. -/
theorem exists_runOn_work {action : SessionAction α} {session after : Session} {value : α}
    (h : action.runOn session = (.ok value, after)) (desk : Desk) :
    ∃ deskAfter, deskAfter.feed = desk.feed
      ∧ runOn (work action) session desk = (.ok value, { after with notices := [] }, deskAfter) := by
  rw [runOn_work, h]
  exact ⟨{ desk with console := desk.console.notice after.notices }, rfl, rfl⟩

theorem runOn_work_eq_ok {action : SessionAction α} {session after : Session}
    {desk deskAfter : Desk} {value : α}
    (h : runOn (work action) session desk = (.ok value, after, deskAfter)) :
    ∃ worked, action.runOn session = (.ok value, worked)
      ∧ after = { worked with notices := [] }
      ∧ deskAfter = { desk with console := desk.console.notice worked.notices } := by
  rw [runOn_work, Prod.mk.injEq, Prod.mk.injEq] at h
  obtain ⟨hvalue, rfl, rfl⟩ := h
  exact ⟨_, Prod.ext hvalue rfl, rfl, rfl⟩

/-- Telling something leaves the session and the feed alone. -/
theorem runOn_tell (text : Report → String) (session : Session) (desk : Desk) :
    runOn (tell text) session desk
      = (.ok (), session, { desk with console := desk.console.tell text }) := rfl

theorem runOn_complain (text : Report → String) (session : Session) (desk : Desk) :
    runOn (complain text) session desk
      = (.ok (), session, { desk with console := desk.console.complain text }) := rfl

/-- Phrases without a key are told unless that breaks off. -/
theorem runOn_tellUnresolved (severity : Severity) (session : Session) (desk : Desk) :
    runOn (tellUnresolved severity) session desk
      = (.ok !(desk.console.report.unresolved severity desk.feed.unresolved).brokeOff, session,
        { desk with
          console := desk.console.print
            (desk.console.report.unresolved severity desk.feed.unresolved) }) := rfl

theorem runOn_tellUnresolved_of_nil (severity : Severity) (session : Session) {desk : Desk}
    (h : desk.feed.unresolved = []) :
    runOn (tellUnresolved severity) session desk
      = (.ok true, session, { desk with console := desk.console.print (.ofText "") }) := by
  have hnil : desk.console.report.unresolved severity [] = .ofText "" := by
    unfold Report.unresolved
    rw [List.mergeSort_nil]
    rfl
  rw [runOn_tellUnresolved, h, hnil]
  rfl

end Desk

end Phrasebook
