import Phrasebook.Project

/-!
# Work of a host

A host does its work in a session and keeps something of its own beside it.

Models the work of the commands beside the coordinator: between flushes it may look at files and
print.
-/

namespace Phrasebook

/-- A step of work of a host that keeps something of its own. What it changed before a problem
stays changed. -/
abbrev HostAction (σ : Type) := ExceptT Problem (StateM (Session × σ))

namespace HostAction

variable {σ α : Type}

/-- What a step gives, and the session and what the host keeps after it. -/
def runOn (action : HostAction σ α) (session : Session) (kept : σ) :
    Except Problem α × Session × σ :=
  (ExceptT.run action : StateM (Session × σ) (Except Problem α)).run (session, kept)

/-- The session. -/
def session : HostAction σ Session := do pure (← get).1

/-- What the host keeps. -/
def kept : HostAction σ σ := do pure (← get).2

/-- Changes what the host keeps. -/
def keep (change : σ → σ) : HostAction σ Unit :=
  modify fun (session, kept) => (session, change kept)

/-- A result, or its problem. -/
def orThrow (found : Except Problem α) : HostAction σ α :=
  match found with
  | .ok value => pure value
  | .error problem => throw problem

/-- A step of work in the session. -/
def onSession (action : SessionAction α) : HostAction σ α := do
  let (session, kept) ← get
  let (found, session) := action.runOn session
  set (session, kept)
  orThrow found

/-- What a step gives, a problem included. -/
def attempt (action : HostAction σ α) : HostAction σ (Except Problem α) :=
  tryCatch (.ok <$> action) fun problem => pure (.error problem)

end HostAction

end Phrasebook
