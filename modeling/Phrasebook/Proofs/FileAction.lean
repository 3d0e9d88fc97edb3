import Phrasebook.FileAction
import Phrasebook.Proofs.FileTree

/-!
# Runs of actions on files

An action in steps succeeds exactly if its steps do, one after the other (`exists_of_run_bind`), and
otherwise one of them is where it fails (`run_bind_eq_error`). That holds of actions over any state,
so of those on sessions too. For the actions on files this file says what a success means for the
tree.

Results:
* `FileAction.runOn_readTextIfFound`: reading leaves the tree as it is.
* `FileAction.runOn_writeText`, `FileAction.runOn_createDirectories`: a change of the files is that
  change of the tree.
-/

namespace Phrasebook

section Steps

variable {σ α β : Type}

/-- An action in two steps. -/
theorem run_bind (action : ExceptT Problem (StateM σ) α)
    (next : α → ExceptT Problem (StateM σ) β) (state : σ) :
    StateT.run (ExceptT.run (action >>= next)) state
      = match StateT.run (ExceptT.run action) state with
        | (.ok value, after) => StateT.run (ExceptT.run (next value)) after
        | (.error problem, after) => (.error problem, after) := by
  show StateT.run (ExceptT.run action >>= ExceptT.bindCont next) state = _
  rw [StateT.run_bind]
  rcases StateT.run (ExceptT.run action) state with ⟨found, after⟩
  cases found <;> rfl

/-- **Both steps of a successful action are successful.** -/
theorem exists_of_run_bind {action : ExceptT Problem (StateM σ) α}
    {next : α → ExceptT Problem (StateM σ) β} {before after : σ} {result : β}
    (h : StateT.run (ExceptT.run (action >>= next)) before = (.ok result, after)) :
    ∃ value middle, StateT.run (ExceptT.run action) before = (.ok value, middle)
      ∧ StateT.run (ExceptT.run (next value)) middle = (.ok result, after) := by
  rw [run_bind] at h
  rcases hrun : StateT.run (ExceptT.run action) before with ⟨found, middle⟩
  rw [hrun] at h
  cases found with
  | error problem => cases h
  | ok value => exact ⟨value, middle, rfl, h⟩

theorem run_bind_of_run {action : ExceptT Problem (StateM σ) α}
    {next : α → ExceptT Problem (StateM σ) β} {before middle : σ} {value : α}
    (h : StateT.run (ExceptT.run action) before = (.ok value, middle)) :
    StateT.run (ExceptT.run (action >>= next)) before
      = StateT.run (ExceptT.run (next value)) middle := by
  rw [run_bind, h]

/-- An action that ends with a problem goes no further. -/
theorem run_bind_of_run_error {action : ExceptT Problem (StateM σ) α}
    {next : α → ExceptT Problem (StateM σ) β} {before after : σ} {problem : Problem}
    (h : StateT.run (ExceptT.run action) before = (.error problem, after)) :
    StateT.run (ExceptT.run (action >>= next)) before = (.error problem, after) := by
  rw [run_bind, h]

/-- **An action that ends with a problem** does so in its first step, or after it in the second. -/
theorem run_bind_eq_error {action : ExceptT Problem (StateM σ) α}
    {next : α → ExceptT Problem (StateM σ) β} {before after : σ} {problem : Problem}
    (h : StateT.run (ExceptT.run (action >>= next)) before = (.error problem, after)) :
    StateT.run (ExceptT.run action) before = (.error problem, after)
      ∨ ∃ value middle, StateT.run (ExceptT.run action) before = (.ok value, middle)
        ∧ StateT.run (ExceptT.run (next value)) middle = (.error problem, after) := by
  rw [run_bind] at h
  rcases hrun : StateT.run (ExceptT.run action) before with ⟨found, middle⟩
  rw [hrun] at h
  cases found with
  | error other =>
    cases h
    exact .inl rfl
  | ok value => exact .inr ⟨value, middle, rfl, h⟩

theorem run_map (change : α → β) (action : ExceptT Problem (StateM σ) α) (state : σ) :
    StateT.run (ExceptT.run (change <$> action)) state
      = ((StateT.run (ExceptT.run action) state).1.map change,
        (StateT.run (ExceptT.run action) state).2) := by
  rw [map_eq_pure_bind, run_bind]
  rcases StateT.run (ExceptT.run action) state with ⟨found, after⟩
  cases found <;> rfl

theorem toOption_eq_some_iff {ε : Type} {found : Except ε α} {value : α} :
    found.toOption = some value ↔ found = .ok value := by
  cases found <;> simp [Except.toOption]

end Steps

namespace FileAction

variable {α β : Type}

theorem runOn_bind (action : FileAction α) (next : α → FileAction β) (files : FileTree) :
    runOn (action >>= next) files
      = match runOn action files with
        | (.ok value, after) => runOn (next value) after
        | (.error problem, after) => (.error problem, after) := by
  show StateT.run (ExceptT.run (action >>= next)) files = _
  rw [run_bind]
  unfold runOn
  rcases StateT.run (ExceptT.run action) files with ⟨found, after⟩
  cases found <;> rfl

theorem exists_of_runOn_bind {action : FileAction α} {next : α → FileAction β}
    {before after : FileTree} {result : β}
    (h : runOn (action >>= next) before = (.ok result, after)) :
    ∃ value middle, runOn action before = (.ok value, middle)
      ∧ runOn (next value) middle = (.ok result, after) := exists_of_run_bind h

theorem runOn_bind_of_runOn {action : FileAction α} {next : α → FileAction β}
    {before middle : FileTree} {value : α} (h : runOn action before = (.ok value, middle)) :
    runOn (action >>= next) before = runOn (next value) middle := run_bind_of_run h

theorem runOn_bind_eq_error {action : FileAction α} {next : α → FileAction β}
    {before after : FileTree} {problem : Problem}
    (h : runOn (action >>= next) before = (.error problem, after)) :
    runOn action before = (.error problem, after)
      ∨ ∃ value middle, runOn action before = (.ok value, middle)
        ∧ runOn (next value) middle = (.error problem, after) := run_bind_eq_error h

theorem runOn_pure (value : α) (tree : FileTree) :
    runOn (pure value) tree = (.ok value, tree) := rfl

theorem runOn_tree (files : FileTree) : runOn tree files = (.ok files, files) := rfl

/-- What is read of a text, if something stands there. -/
def foundText (path : String) (found : Except FileFault String) : Except Problem (Option String) :=
  match found with
  | .ok text => .ok (some text)
  | .error .notFound => .ok none
  | .error fault => .error (.file path fault)

theorem foundText_eq_ok_some_iff {path text : String} {found : Except FileFault String} :
    foundText path found = .ok (some text) ↔ found = .ok text := by
  cases found with
  | ok value => simp [foundText]
  | error fault => cases fault <;> simp [foundText]

/-- **Reading leaves the files as they are.** -/
theorem runOn_readTextIfFound (path : String) (files : FileTree) :
    runOn (readTextIfFound path) files = (foundText path (files.readText path), files) := by
  unfold readTextIfFound
  rw [runOn_bind_of_runOn (runOn_tree files)]
  cases files.readText path with
  | ok text => rfl
  | error fault => cases fault <;> rfl

/-- **Writing a text** gives what the write of the tree gives. -/
theorem runOn_writeText (path text : String) (files : FileTree) :
    runOn (writeText path text) files
      = ((files.write path text).1.mapError (.file path), (files.write path text).2) := by
  unfold writeText
  rw [runOn_bind_of_runOn (runOn_tree files)]
  rcases files.write path text with ⟨found, after⟩
  cases found <;> rfl

theorem write_of_runOn_writeText {path text : String} {before after : FileTree}
    (h : runOn (writeText path text) before = (.ok (), after)) :
    before.write path text = (.ok (), after) := by
  rw [runOn_writeText] at h
  rcases hwrite : before.write path text with ⟨found, written⟩
  rw [hwrite] at h
  cases found with
  | error fault => cases h
  | ok =>
    cases h
    rfl

/-- **Adding directories** leaves the tree as it is if it fails. -/
theorem runOn_createDirectories (path : String) (files : FileTree) :
    runOn (createDirectories path) files
      = match files.createDirectories path with
        | .ok after => (.ok (), after)
        | .error fault => (.error (.file path fault), files) := by
  unfold createDirectories
  rw [runOn_bind_of_runOn (runOn_tree files)]
  cases files.createDirectories path <;> rfl

/-- Adding directories adds directories at most, however it ends. -/
theorem sameFiles_of_createDirectories {path : String} {before after : FileTree}
    {found : Except Problem Unit}
    (h : runOn (createDirectories path) before = (found, after)) :
    FileTree.SameFiles before after := by
  rw [runOn_createDirectories] at h
  cases hcreate : before.createDirectories path with
  | ok created =>
    rw [hcreate] at h
    cases h
    exact FileTree.sameFiles_createDirectories hcreate
  | error fault =>
    rw [hcreate] at h
    cases h
    exact .refl before

end FileAction

end Phrasebook
