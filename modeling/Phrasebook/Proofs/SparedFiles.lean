import Phrasebook.Proofs.FailedReconciliation
import Phrasebook.Proofs.RequestAccounting
import Phrasebook.Proofs.WrittenOutputs

/-!
# Spared files

Which files an action may change is told by the places that it spares. Unlike what stands at one
place, that holds whatever the action ends with, and it adds up along the steps of an action. So
does every other condition that each step keeps (`Ensures`), together with what is known of the
values that the steps give.

Results:
* `FileAction.spares_of_writeBelow`: one text below a directory changes one file at most.
* `Project.spares_of_flush`: a flush changes the two locale files at most.
* `ensures_bind`: a condition that both steps of an action keep.
* `HostAction.ensures_onSession`, `HostAction.ensures_attempt`: the steps of hosts.
* `Desk.spares_of_writeOutputs`: written outputs change files at their places at most.
-/

namespace Phrasebook

/-! ## Trees -/

namespace FileTree

/-- The working directory is the same, and so are the files at some places. -/
structure Spares (spared : Place → Prop) (before after : FileTree) : Prop where
  workingDirectory : after.workingDirectory = before.workingDirectory
  fileAt? : ∀ place, spared place → after.fileAt? place = before.fileAt? place

namespace Spares

variable {spared : Place → Prop} {before middle after : FileTree}

theorem refl (spared : Place → Prop) (tree : FileTree) : Spares spared tree tree :=
  ⟨rfl, fun _ _ => rfl⟩

theorem trans (first : Spares spared before middle) (second : Spares spared middle after) :
    Spares spared before after where
  workingDirectory := second.workingDirectory.trans first.workingDirectory
  fileAt? place h := (second.fileAt? place h).trans (first.fileAt? place h)

end Spares

theorem SameFiles.spares {before after : FileTree} (h : SameFiles before after)
    (spared : Place → Prop) : Spares spared before after :=
  ⟨h.workingDirectory, fun place _ => h.fileAt? place⟩

end FileTree

/-! ## Actions on files -/

namespace FileAction

variable {spared : Place → Prop} {before after : FileTree}

theorem spares_of_writeText {path text : String} {found : Except Problem Unit}
    (h : (writeText path text).runOn before = (found, after))
    (hne : ∀ place, spared place → FileTree.keyOf place
      ≠ FileTree.keyOf (FileTree.placeOf before.workingDirectory path)) :
    FileTree.Spares spared before after := by
  rw [runOn_writeText] at h
  obtain ⟨-, rfl⟩ := Prod.mk.inj h
  exact ⟨(FileTree.keepsBut_write rfl).workingDirectory,
    fun place hplace => FileTree.fileAt?_write rfl (hne place hplace)⟩

/-- **A text below a directory** is written at its own place alone. -/
theorem spares_of_writeBelow {directory path text : String} {found : Except Problem Unit}
    (h : (writeBelow directory path text).runOn before = (found, after))
    (hne : ∀ place, spared place → FileTree.keyOf place
      ≠ FileTree.keyOf (FileTree.placeOf before.workingDirectory (Path.join directory path))) :
    FileTree.Spares spared before after := by
  rcases exists_of_writeBelow h with ⟨-, hsame⟩ | ⟨middle, hsame, hwrite⟩
  · exact hsame.spares spared
  · have hmiddle := hsame.spares spared
    refine hmiddle.trans (spares_of_writeText hwrite fun place hplace => ?_)
    rw [hmiddle.workingDirectory]
    exact hne place hplace

end FileAction

/-! ## Locale files -/

/-- A save changes the file of its language at most. -/
theorem Locales.spares_of_save {locales : Locales} {language : String} {catalog : Catalog}
    {spared : Place → Prop} {before after : FileTree} {found : Except Problem Bool}
    (h : (locales.save language catalog).runOn before = (found, after))
    (hne : ∀ place, spared place →
      FileTree.keyOf place ≠ locales.fileKey before.workingDirectory language) :
    FileTree.Spares spared before after :=
  ⟨(keepsBut_of_save h).workingDirectory, fun place hplace => fileAt?_of_save h (hne place hplace)⟩

/-- The place is that of a locale file. -/
def Locales.IsPlace (locales : Locales) (workingDirectory place : Place) : Prop :=
  FileTree.keyOf place = locales.fileKey workingDirectory locales.sourceLanguage
    ∨ FileTree.keyOf place = locales.fileKey workingDirectory locales.targetLanguage

/-- **A reconciliation changes the locale files at most**, however it ends. -/
theorem Reconciliation.spares_of_run {locales : Locales} {rule : Merge} {outcomes : List Outcome}
    {survey : Survey} {spared : Place → Prop} {before after : FileTree}
    {found : Except Problem Reconciliation}
    (h : (run locales rule outcomes survey).runOn before = (found, after))
    (hne : ∀ place, spared place → ¬locales.IsPlace before.workingDirectory place) :
    FileTree.Spares spared before after := by
  have hsource : ∀ place, spared place → FileTree.keyOf place
      ≠ locales.fileKey before.workingDirectory locales.sourceLanguage :=
    fun place hplace hkey => hne place hplace (.inl hkey)
  have htarget : ∀ place, spared place → FileTree.keyOf place
      ≠ locales.fileKey before.workingDirectory locales.targetLanguage :=
    fun place hplace hkey => hne place hplace (.inr hkey)
  cases found with
  | ok reconciliation =>
    obtain ⟨_, _, middle, -, -, hsaveSource, hsaveTarget, -⟩ := exists_of_run h
    have hfirst := Locales.spares_of_save hsaveSource hsource
    rw [← hfirst.workingDirectory] at htarget
    exact hfirst.trans (Locales.spares_of_save hsaveTarget htarget)
  | error problem =>
    cases failed_of_run h with
    | untouched files => exact files.spares spared
    | sourceCut _ _ failed => exact Locales.spares_of_save failed hsource
    | sourceSaved _ _ saved failed =>
      have hfirst := Locales.spares_of_save saved hsource
      rw [← hfirst.workingDirectory] at htarget
      exact hfirst.trans (Locales.spares_of_save failed htarget)

namespace Project

open SessionAction

variable {project : Project} {spared : Place → Prop} {before after : Session}

theorem spares_of_reconcile {outcomes : List Outcome} {found : Except Problem Reconciliation}
    (h : (project.reconcile outcomes).runOn before = (found, after))
    (hne : ∀ place, spared place →
      ¬project.locales.IsPlace before.files.workingDirectory place) :
    FileTree.Spares spared before.files after.files := by
  cases found with
  | ok reconciliation =>
    exact Reconciliation.spares_of_run (reconciled_of_reconcile h).files hne
  | error problem => exact Reconciliation.spares_of_run (run_of_reconcile_error h).1 hne

/-- **A flush changes the locale files at most**, however it ends. -/
theorem spares_of_flush {translator : Translator} {found : Except Problem Flush}
    (h : (project.flush translator).runOn before = (found, after))
    (hne : ∀ place, spared place →
      ¬project.locales.IsPlace before.files.workingDirectory place) :
    FileTree.Spares spared before.files after.files := by
  cases ended_of_flush h with
  | idle => exact .refl spared before.files
  | late => exact .refl spared before.files
  | untranslated => exact .refl spared before.files
  | reconciled _ _ _ hreconcile =>
    have hspares := spares_of_reconcile hreconcile hne
    exact hspares
  | broken _ _ _ hreconcile =>
    have hspares := spares_of_reconcile hreconcile hne
    exact hspares

end Project

/-! ## Conditions that are kept -/

section Steps

variable {σ α β : Type} {inv : σ → Prop} {post : α → Prop} {last : β → Prop}

/-- Run on one state, the action ends in a state with a condition, whatever it ends with, and a
value that it gives satisfies another one. -/
def EndsIn (inv : σ → Prop) (action : ExceptT Problem (StateM σ) α) (post : α → Prop)
    (state : σ) : Prop :=
  inv (StateT.run (ExceptT.run action) state).2
    ∧ ∀ value, (StateT.run (ExceptT.run action) state).1 = .ok value → post value

/-- The action keeps a condition on the state, and the values that it gives satisfy another one. -/
def Ensures (inv : σ → Prop) (action : ExceptT Problem (StateM σ) α) (post : α → Prop) : Prop :=
  ∀ state, inv state → EndsIn inv action post state

/-- **Two steps end as the first one does or as the second one keeps it.** -/
theorem endsIn_bind {action : ExceptT Problem (StateM σ) α}
    {next : α → ExceptT Problem (StateM σ) β} {state : σ} (h : EndsIn inv action post state)
    (hnext : ∀ value, post value → Ensures inv (next value) last) :
    EndsIn inv (action >>= next) last state := by
  obtain ⟨hmiddle, hvalue⟩ := h
  unfold EndsIn
  rw [run_bind]
  rcases hrun : StateT.run (ExceptT.run action) state with ⟨found, middle⟩
  rw [hrun] at hmiddle hvalue
  cases found with
  | error problem => exact ⟨hmiddle, nofun⟩
  | ok value => exact hnext value (hvalue value rfl) middle hmiddle

/-- **Two steps keep what both keep.** -/
theorem ensures_bind {action : ExceptT Problem (StateM σ) α}
    {next : α → ExceptT Problem (StateM σ) β} (h : Ensures inv action post)
    (hnext : ∀ value, post value → Ensures inv (next value) last) :
    Ensures inv (action >>= next) last :=
  fun state hstate => endsIn_bind (h state hstate) hnext

theorem ensures_pure {value : α} (h : post value) :
    Ensures inv (pure value : ExceptT Problem (StateM σ) α) post := by
  intro state hstate
  refine ⟨hstate, fun given hgiven => ?_⟩
  cases hgiven
  exact h

theorem ensures_throw (problem : Problem) :
    Ensures inv (throw problem : ExceptT Problem (StateM σ) α) post :=
  fun _ hstate => ⟨hstate, nofun⟩

end Steps

namespace HostAction

variable {σ α : Type} {inv : Session × σ → Prop} {post : α → Prop}

/-- What the host keeps, with what the condition says of it. -/
theorem ensures_kept {post : σ → Prop} (h : ∀ session kept, inv (session, kept) → post kept) :
    Ensures inv HostAction.kept post := by
  rintro ⟨session, kept⟩ hstate
  refine ⟨hstate, fun value hvalue => ?_⟩
  cases hvalue
  exact h session kept hstate

theorem ensures_session {post : Session → Prop}
    (h : ∀ session kept, inv (session, kept) → post session) :
    Ensures inv HostAction.session post := by
  rintro ⟨session, kept⟩ hstate
  refine ⟨hstate, fun value hvalue => ?_⟩
  cases hvalue
  exact h session kept hstate

theorem ensures_keep {change : σ → σ}
    (h : ∀ session kept, inv (session, kept) → inv (session, change kept)) :
    Ensures inv (keep change) fun _ => True :=
  fun _ hstate => ⟨h _ _ hstate, fun _ _ => trivial⟩

theorem ensures_orThrow {found : Except Problem α} (h : ∀ value, found = .ok value → post value) :
    Ensures inv (orThrow found) post := by
  cases found with
  | ok value => exact ensures_pure (h value rfl)
  | error problem => exact ensures_throw problem

/-- A step in the session keeps what it keeps for whatever the host keeps beside it. -/
theorem ensures_onSession {action : SessionAction α}
    (h : ∀ kept, Ensures (fun session => inv (session, kept)) action post) :
    Ensures inv (onSession action) post := by
  rintro ⟨session, kept⟩ hstate
  unfold EndsIn
  rw [show StateT.run (ExceptT.run (onSession action)) (session, kept) = _ from
    runOn_onSession action session kept]
  exact h kept session hstate

/-- **An attempt keeps what its action keeps**, and passes a problem on as a value. -/
theorem endsIn_attempt {action : HostAction σ α} {session : Session} {kept : σ}
    (h : EndsIn inv action post (session, kept)) :
    EndsIn inv (attempt action) (fun found => ∀ value, found = .ok value → post value)
      (session, kept) := by
  obtain ⟨hafter, hvalue⟩ := h
  unfold EndsIn
  rw [show StateT.run (ExceptT.run (attempt action)) (session, kept) = _ from
    runOn_attempt action session kept]
  refine ⟨hafter, fun found hfound => ?_⟩
  cases hfound
  exact hvalue

theorem ensures_attempt {action : HostAction σ α} (h : Ensures inv action post) :
    Ensures inv (attempt action) fun found => ∀ value, found = .ok value → post value :=
  fun (session, kept) hstate => endsIn_attempt (h (session, kept) hstate)

end HostAction

/-! ## Written outputs -/

namespace Desk

open HostAction

variable {directory : String} {outputs : List (String × Rewriting)}

/-- **Writing outputs keeps what each write keeps.** -/
theorem ensures_writeOutputs {inv : Session × Desk → Prop}
    (h : ∀ output ∈ outputs, Ensures inv (onSession (SessionAction.onFiles
      (FileAction.writeBelow directory output.1 output.2.code))) fun _ => True) :
    Ensures inv (writeOutputs directory outputs) fun _ => True := by
  induction outputs with
  | nil => exact ensures_pure trivial
  | cons output rest ih =>
    exact ensures_bind (h output List.mem_cons_self) fun _ _ =>
      ih fun other hmem => h other (List.mem_cons_of_mem _ hmem)

/-- **Writing outputs changes files at their places at most**, whatever it ends with. -/
theorem spares_of_writeOutputs {spared : Place → Prop} {before after : Session}
    {desk deskAfter : Desk} {found : Except Problem Unit}
    (h : runOn (writeOutputs directory outputs) before desk = (found, after, deskAfter))
    (hne : ∀ output ∈ outputs, ∀ place, spared place → FileTree.keyOf place
      ≠ FileTree.keyOf (FileTree.placeOf before.files.workingDirectory
        (Path.join directory output.1))) :
    FileTree.Spares spared before.files after.files := by
  have hensures : Ensures (fun state : Session × Desk =>
      FileTree.Spares spared before.files state.1.files) (writeOutputs directory outputs)
      fun _ => True := by
    refine ensures_writeOutputs fun output hmem => ensures_onSession fun _ session hspares =>
      ⟨?_, fun _ _ => trivial⟩
    rw [show StateT.run (ExceptT.run (SessionAction.onFiles _)) session = _ from
      SessionAction.runOn_onFiles _ session]
    refine hspares.trans (FileAction.spares_of_writeBelow rfl fun place hplace => ?_)
    rw [hspares.workingDirectory]
    exact hne output hmem place hplace
  have hafter := (hensures (before, desk) (.refl _ _)).1
  rwa [show StateT.run (ExceptT.run (writeOutputs directory outputs)) (before, desk) = _ from h]
    at hafter

end Desk

end Phrasebook
