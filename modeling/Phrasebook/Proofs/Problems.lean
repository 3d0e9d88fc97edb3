import Phrasebook.Proofs.Session

/-!
# What a problem says and leaves

An action can end with a problem, and then too what it changed stays changed. Of an action in steps,
both its problems and what it leaves alone follow from those of its steps. So they do for a
reconciliation: whatever keeps it from its end is a problem with a file, and nothing that was
pending is lost.

Results:
* `Project.failsFatally_reconcile`: the problems of a reconciliation are fatal.
* `Project.leavesAlone_pending_reconcile`: a reconciliation leaves what is pending alone, also if it
  ends with a problem.
-/

namespace Phrasebook

/-! ## Steps -/

section Steps

variable {σ α β ι : Type}

/-- The action ends with fatal problems only. -/
def FailsFatally (action : ExceptT Problem (StateM σ) α) : Prop :=
  ∀ state problem, (StateT.run (ExceptT.run action) state).1 = .error problem →
    problem.isFatal = true

/-- The action leaves a part of the state alone, whatever it ends with. -/
def LeavesAlone (part : σ → ι) (action : ExceptT Problem (StateM σ) α) : Prop :=
  ∀ state, part (StateT.run (ExceptT.run action) state).2 = part state

theorem failsFatally_bind {action : ExceptT Problem (StateM σ) α}
    {next : α → ExceptT Problem (StateM σ) β} (h : FailsFatally action)
    (hnext : ∀ value, FailsFatally (next value)) : FailsFatally (action >>= next) := by
  intro state problem hproblem
  rw [run_bind] at hproblem
  rcases hrun : StateT.run (ExceptT.run action) state with ⟨found, middle⟩
  rw [hrun] at hproblem
  cases found with
  | error other =>
    cases hproblem
    exact h state problem (by rw [hrun])
  | ok value => exact hnext value middle problem hproblem

theorem leavesAlone_bind {part : σ → ι} {action : ExceptT Problem (StateM σ) α}
    {next : α → ExceptT Problem (StateM σ) β} (h : LeavesAlone part action)
    (hnext : ∀ value, LeavesAlone part (next value)) : LeavesAlone part (action >>= next) := by
  intro state
  have hstate := h state
  rw [run_bind]
  rcases hrun : StateT.run (ExceptT.run action) state with ⟨found, middle⟩
  rw [hrun] at hstate
  cases found with
  | error problem => exact hstate
  | ok value => exact (hnext value middle).trans hstate

theorem failsFatally_pure (value : α) :
    FailsFatally (pure value : ExceptT Problem (StateM σ) α) := by
  intro state problem hproblem
  cases hproblem

theorem failsFatally_get : FailsFatally (get : ExceptT Problem (StateM σ) σ) := by
  intro state problem hproblem
  cases hproblem

theorem failsFatally_modify (change : σ → σ) :
    FailsFatally (modify change : ExceptT Problem (StateM σ) Unit) := by
  intro state problem hproblem
  cases hproblem

theorem failsFatally_throw {problem : Problem} (h : problem.isFatal = true) :
    FailsFatally (throw problem : ExceptT Problem (StateM σ) α) := by
  intro state other hother
  cases hother
  exact h

theorem leavesAlone_pure (part : σ → ι) (value : α) :
    LeavesAlone part (pure value : ExceptT Problem (StateM σ) α) := fun _ => rfl

end Steps

/-! ## Files -/

namespace FileAction

variable {α : Type}

theorem failsFatally_orFault (path : String) (found : Except FileFault α) :
    FailsFatally (orFault path found) := by
  cases found with
  | error fault => exact failsFatally_throw rfl
  | ok value => exact failsFatally_pure value

theorem failsFatally_readTextIfFound (path : String) : FailsFatally (readTextIfFound path) := by
  intro files problem hproblem
  have hrun := runOn_readTextIfFound path files
  unfold runOn at hrun
  rw [hrun] at hproblem
  cases hread : files.readText path with
  | ok text =>
    rw [hread] at hproblem
    cases hproblem
  | error fault =>
    rw [hread] at hproblem
    cases fault <;> cases hproblem <;> rfl

theorem failsFatally_writeText (path text : String) : FailsFatally (writeText path text) :=
  failsFatally_bind failsFatally_get fun _ =>
    failsFatally_bind (failsFatally_modify _) fun _ => failsFatally_orFault _ _

theorem failsFatally_createDirectories (path : String) : FailsFatally (createDirectories path) :=
  failsFatally_bind failsFatally_get fun _ =>
    failsFatally_bind (failsFatally_orFault _ _) fun _ => failsFatally_modify _

end FileAction

namespace Locales

theorem failsFatally_load (locales : Locales) (language : String) :
    FailsFatally (locales.load language) := by
  refine failsFatally_bind (FileAction.failsFatally_readTextIfFound _) fun text? => ?_
  cases text? with
  | none => exact failsFatally_pure _
  | some text =>
    dsimp only
    cases Catalog.ofText text with
    | ok catalog => exact failsFatally_pure _
    | error defect => exact failsFatally_throw rfl

theorem failsFatally_save (locales : Locales) (language : String) (catalog : Catalog) :
    FailsFatally (locales.save language catalog) := by
  refine failsFatally_bind (FileAction.failsFatally_readTextIfFound _) fun text? => ?_
  by_cases hsame : text? = some catalog.text
  · rw [if_pos hsame]
    exact failsFatally_pure _
  · rw [if_neg hsame]
    exact failsFatally_bind (FileAction.failsFatally_createDirectories _) fun _ =>
      failsFatally_bind (FileAction.failsFatally_writeText _ _) fun _ => failsFatally_pure _

end Locales

theorem Reconciliation.failsFatally_run (locales : Locales) (rule : Merge)
    (outcomes : List Outcome) (survey : Survey) :
    FailsFatally (Reconciliation.run locales rule outcomes survey) :=
  failsFatally_bind (locales.failsFatally_load _) fun _ =>
    failsFatally_bind (locales.failsFatally_load _) fun _ =>
      failsFatally_bind (locales.failsFatally_save _ _) fun _ =>
        failsFatally_bind (locales.failsFatally_save _ _) fun _ => failsFatally_pure _

/-! ## Sessions -/

namespace SessionAction

variable {α ι : Type}

/-- An action on the files ends with the problems it has there. -/
theorem failsFatally_onFiles {action : FileAction α} (h : FailsFatally action) :
    FailsFatally (onFiles action) := by
  intro session problem hproblem
  refine h session.files problem ?_
  rw [← hproblem]
  exact (congrArg Prod.fst (runOn_onFiles action session)).symm

/-- An action on the files leaves everything else of the session alone. -/
theorem leavesAlone_onFiles (action : FileAction α) {part : Session → ι}
    (hpart : ∀ (session : Session) files, part { session with files } = part session) :
    LeavesAlone part (onFiles action) := by
  intro session
  rw [show StateT.run (ExceptT.run (onFiles action)) session = _ from runOn_onFiles action session]
  exact hpart session _

end SessionAction

namespace Project

open SessionAction

theorem failsFatally_loadIndex (project : Project) : FailsFatally project.loadIndex :=
  failsFatally_bind (project.locales.failsFatally_load _) fun _ => failsFatally_pure _

theorem failsFatally_refresh (project : Project) : FailsFatally project.refresh :=
  failsFatally_bind (failsFatally_onFiles project.failsFatally_loadIndex) fun _ =>
    failsFatally_modify _

theorem failsFatally_survey (project : Project) (outcomes : List Outcome) :
    FailsFatally (project.survey outcomes) := by
  intro session problem hproblem
  cases hproblem

/-- **The problems of a reconciliation are fatal.** -/
theorem failsFatally_reconcile (project : Project) (outcomes : List Outcome) :
    FailsFatally (project.reconcile outcomes) := by
  refine failsFatally_bind (project.failsFatally_survey outcomes) fun survey => ?_
  refine failsFatally_bind (failsFatally_onFiles
    (Reconciliation.failsFatally_run _ _ _ _)) fun reconciliation => ?_
  by_cases hwritten : reconciliation.isWritten = true
  · rw [if_pos hwritten]
    exact failsFatally_bind project.failsFatally_refresh fun _ =>
      failsFatally_bind (failsFatally_modify _) fun _ => failsFatally_pure _
  · rw [if_neg hwritten]
    exact failsFatally_pure _

/-- **A reconciliation leaves what is pending alone**, also if it ends with a problem. -/
theorem leavesAlone_pending_reconcile (project : Project) (outcomes : List Outcome) :
    LeavesAlone Session.pending (project.reconcile outcomes) := by
  have hfiles : ∀ {α : Type} (action : FileAction α),
      LeavesAlone Session.pending (onFiles action) := fun action =>
    leavesAlone_onFiles action fun _ _ => rfl
  refine leavesAlone_bind (fun _ => rfl) fun survey => ?_
  refine leavesAlone_bind (hfiles _) fun reconciliation => ?_
  by_cases hwritten : reconciliation.isWritten = true
  · rw [if_pos hwritten]
    exact leavesAlone_bind (leavesAlone_bind (hfiles _) fun _ _ => rfl) fun _ =>
      leavesAlone_bind (fun _ => rfl) fun _ => leavesAlone_pure _ _
  · rw [if_neg hwritten]
    exact leavesAlone_pure _ _

variable {project : Project} {outcomes : List Outcome} {before after : Session}

theorem isFatal_of_reconcile {problem : Problem}
    (h : (project.reconcile outcomes).runOn before = (.error problem, after)) :
    problem.isFatal = true :=
  project.failsFatally_reconcile outcomes before problem (congrArg Prod.fst h)

theorem pending_eq_of_reconcile {found : Except Problem Reconciliation}
    (h : (project.reconcile outcomes).runOn before = (found, after)) :
    after.pending = before.pending := by
  have hpending := project.leavesAlone_pending_reconcile outcomes before
  rwa [show StateT.run (ExceptT.run (project.reconcile outcomes)) before = _ from h] at hpending

end Project

end Phrasebook
