import Phrasebook.Proofs.HostAction
import Phrasebook.Proofs.Locales

/-!
# Written outputs

Outputs are written below a directory one after the other. Each write may make directories and
changes one file, so that what stands at other places stays there.

Results:
* `FileAction.exists_of_writeBelow`: how one text is written below a directory.
* `Desk.eq_of_writeOutputs`: writing outputs changes nothing but files.
* `Desk.entry?_of_writeOutputs`: what stands at other places stays there.
* `Desk.Writes.runOn_writeOutputs`, `Desk.Writes.readText`: outputs that can be written are, and are
  read at their places.
-/

namespace Phrasebook

namespace FileAction

variable {directory path text : String} {before after : FileTree}

/-- **How a text is written below a directory**: once the directories above it stand, it is written
at its place. -/
theorem exists_of_writeBelow {found : Except Problem Unit}
    (h : (writeBelow directory path text).runOn before = (found, after)) :
    ((∃ problem, found = .error problem) ∧ FileTree.SameFiles before after)
      ∨ ∃ middle, FileTree.SameFiles before middle
        ∧ (writeText (Path.join directory path) text).runOn middle = (found, after) := by
  unfold writeBelow at h
  dsimp only at h
  cases hparent : Path.parent? (Path.join directory path) with
  | none =>
    rw [hparent] at h
    exact .inr ⟨before, .refl before, h⟩
  | some parent =>
    rw [hparent] at h
    rcases hcreate : (createDirectories parent).runOn before with ⟨created, middle⟩
    cases created with
    | error problem =>
      have hfailed : (createDirectories parent >>= fun _ =>
          writeText (Path.join directory path) text).runOn before = (.error problem, middle) :=
        run_bind_of_run_error hcreate
      obtain ⟨rfl, rfl⟩ := Prod.mk.inj (hfailed.symm.trans h)
      exact .inl ⟨⟨problem, rfl⟩, sameFiles_of_createDirectories hcreate⟩
    | ok =>
      rw [runOn_bind_of_runOn hcreate] at h
      exact .inr ⟨middle, sameFiles_of_createDirectories hcreate, h⟩

/-- A text that is written below a directory is written where the files are as before. -/
theorem exists_write_of_writeBelow
    (h : (writeBelow directory path text).runOn before = (.ok (), after)) :
    ∃ middle, FileTree.SameFiles before middle
      ∧ middle.write (Path.join directory path) text = (.ok (), after) := by
  rcases exists_of_writeBelow h with ⟨⟨_, hproblem⟩, -⟩ | ⟨middle, hsame, hwrite⟩
  · cases hproblem
  · exact ⟨middle, hsame, write_of_runOn_writeText hwrite⟩

/-- **A text written below a directory** changes no other file. -/
theorem keepsBut_of_writeBelow
    (h : (writeBelow directory path text).runOn before = (.ok (), after)) :
    FileTree.KeepsBut (FileTree.keyOf (FileTree.placeOf before.workingDirectory
      (Path.join directory path))) before after := by
  obtain ⟨middle, hsame, hwrite⟩ := exists_write_of_writeBelow h
  exact hsame.keepsBut_write hwrite

/-- A text written below a directory is read there. -/
theorem readText_of_writeBelow
    (h : (writeBelow directory path text).runOn before = (.ok (), after)) :
    after.readText (Path.join directory path) = .ok text := by
  obtain ⟨middle, -, hwrite⟩ := exists_write_of_writeBelow h
  exact FileTree.readText_write hwrite

end FileAction

namespace Locales

variable {locales : Locales} {language : String}

/-- A file that holds some key can be read. -/
theorem Holds.exists_readText {files : FileTree} {catalog : Catalog}
    (h : locales.Holds language files catalog) {ns key value : String}
    (hvalue : catalog.get? ns key = some value) :
    ∃ text, files.readText (locales.pathOf language) = .ok text := by
  rw [holds_iff] at h
  cases hread : files.readText (locales.pathOf language) with
  | ok text => exact ⟨text, rfl⟩
  | error fault =>
    rw [hread] at h
    cases fault <;> cases h
    cases hvalue

end Locales

namespace Desk

open HostAction

variable {before after : Session} {desk deskAfter : Desk} {directory : String}
  {outputs : List (String × Rewriting)}

/-- The first of some outputs is written, then the others. -/
theorem exists_of_writeOutputs_cons {file : String} {rewriting : Rewriting}
    (h : runOn (writeOutputs directory ((file, rewriting) :: outputs)) before desk
      = (.ok (), after, deskAfter)) :
    ∃ files, (FileAction.writeBelow directory file rewriting.code).runOn before.files
        = (.ok (), files)
      ∧ runOn (writeOutputs directory outputs) { before with files } desk
        = (.ok (), after, deskAfter) := by
  obtain ⟨_, middle, kept, hwrite, hrest⟩ := HostAction.exists_of_runOn_bind h
  rw [runOn_onSession, Prod.mk.injEq, Prod.mk.injEq] at hwrite
  obtain ⟨hwritten, hmiddle, rfl⟩ := hwrite
  obtain ⟨hfiles, hsame⟩ := SessionAction.runOn_onFiles_eq_ok (Prod.ext hwritten hmiddle)
  rw [hsame] at hrest
  exact ⟨middle.files, hfiles, hrest⟩

/-- **Writing outputs changes nothing but files.** -/
theorem eq_of_writeOutputs
    (h : runOn (writeOutputs directory outputs) before desk = (.ok (), after, deskAfter)) :
    after = { before with files := after.files } ∧ deskAfter = desk
      ∧ after.files.workingDirectory = before.files.workingDirectory := by
  induction outputs generalizing before with
  | nil =>
    cases h
    exact ⟨rfl, rfl, rfl⟩
  | cons output rest ih =>
    obtain ⟨files, hwrite, hrest⟩ := exists_of_writeOutputs_cons h
    obtain ⟨hafter, hdesk, hdirectory⟩ := ih hrest
    exact ⟨hafter, hdesk,
      hdirectory.trans (FileAction.keepsBut_of_writeBelow hwrite).workingDirectory⟩

/-- **What stands at other places than the outputs** stays there. -/
theorem entry?_of_writeOutputs
    (h : runOn (writeOutputs directory outputs) before desk = (.ok (), after, deskAfter))
    {path : String} {entry : FileEntry}
    (hne : ∀ output ∈ outputs, FileTree.keyOf (FileTree.placeOf before.files.workingDirectory path)
      ≠ FileTree.keyOf (FileTree.placeOf before.files.workingDirectory
        (Path.join directory output.1)))
    (hentry : before.files.entry? path = some entry) : after.files.entry? path = some entry := by
  induction outputs generalizing before with
  | nil =>
    cases h
    exact hentry
  | cons output rest ih =>
    obtain ⟨files, hwrite, hrest⟩ := exists_of_writeOutputs_cons h
    have hkeeps := FileAction.keepsBut_of_writeBelow hwrite
    refine ih hrest (fun other hmem => ?_) ?_
    · dsimp only
      rw [hkeeps.workingDirectory]
      exact hne other (List.mem_cons_of_mem _ hmem)
    · exact FileTree.entry?_of_keepsBut hkeeps (hne output List.mem_cons_self) hentry

/-- A text at another place than the outputs is read as before. -/
theorem readText_of_writeOutputs
    (h : runOn (writeOutputs directory outputs) before desk = (.ok (), after, deskAfter))
    {path text : String}
    (hne : ∀ output ∈ outputs, FileTree.keyOf (FileTree.placeOf before.files.workingDirectory path)
      ≠ FileTree.keyOf (FileTree.placeOf before.files.workingDirectory
        (Path.join directory output.1)))
    (hread : before.files.readText path = .ok text) : after.files.readText path = .ok text := by
  obtain ⟨stamp, hentry⟩ := FileTree.readText_eq_ok_iff_exists_stamp.1 hread
  exact FileTree.readText_eq_ok_iff_exists_stamp.2 ⟨stamp, entry?_of_writeOutputs h hne hentry⟩

/-! ## Outputs that can be written -/

/-- Rewritings are written below a directory one after the other. -/
inductive Writes (directory : String) : List (String × Rewriting) → FileTree → FileTree → Prop
  | nil {files : FileTree} : Writes directory [] files files
  | cons {file : String} {rewriting : Rewriting} {rest : List (String × Rewriting)}
      {before middle after : FileTree}
      (first : (FileAction.writeBelow directory file rewriting.code).runOn before
        = (.ok (), middle))
      (more : Writes directory rest middle after) :
      Writes directory ((file, rewriting) :: rest) before after

/-- Outputs that can be written are written. -/
theorem Writes.runOn_writeOutputs {before after : FileTree}
    (h : Writes directory outputs before after) (session : Session)
    (hfiles : session.files = before) (desk : Desk) :
    runOn (writeOutputs directory outputs) session desk
      = (.ok (), { session with files := after }, desk) := by
  induction h generalizing session with
  | nil =>
    subst hfiles
    rfl
  | @cons file rewriting rest before middle after first _ ih =>
    have hfirst : runOn (onSession (SessionAction.onFiles
        (FileAction.writeBelow directory file rewriting.code))) session desk
          = (.ok (), { session with files := middle }, desk) := by
      rw [runOn_onSession, SessionAction.runOn_onFiles, hfiles, first]
    unfold writeOutputs
    rw [HostAction.runOn_bind_of_runOn hfirst]
    exact ih { session with files := middle } rfl

/-- **A written text is read at its place**, unless another output leads there. -/
theorem Writes.readText {before after : FileTree} (h : Writes directory outputs before after)
    {file : String} {rewriting : Rewriting} (hmem : (file, rewriting) ∈ outputs)
    (hnodup : (outputs.map Prod.fst).Nodup)
    (halone : ∀ other ∈ outputs.map Prod.fst,
      FileTree.keyOf (FileTree.placeOf before.workingDirectory (Path.join directory other))
        = FileTree.keyOf (FileTree.placeOf before.workingDirectory (Path.join directory file)) →
      other = file) :
    after.readText (Path.join directory file) = .ok rewriting.code := by
  induction h with
  | nil => cases hmem
  | @cons first found rest before middle after hfirst hmore ih =>
    have hdirectory : middle.workingDirectory = before.workingDirectory :=
      (FileAction.keepsBut_of_writeBelow hfirst).workingDirectory
    obtain ⟨hnew, hrest⟩ := List.nodup_cons.1 hnodup
    rcases List.mem_cons.1 hmem with hhead | htail
    · cases hhead
      -- No later output leads to this place.
      have hrun := hmore.runOn_writeOutputs ⟨middle, PhraseIndex.empty, Pending.empty, 0, 0,
        Ticker.start 0 0, []⟩ rfl ⟨Console.start false false, Feed.empty⟩
      refine readText_of_writeOutputs hrun (fun other hother hsame => ?_)
        (FileAction.readText_of_writeBelow hfirst)
      dsimp only at hsame
      rw [hdirectory] at hsame
      have hname : other.1 ∈ rest.map Prod.fst := List.mem_map_of_mem hother
      have := halone other.1 (List.mem_cons_of_mem _ hname) hsame.symm
      exact hnew (this ▸ hname)
    · refine ih htail hrest fun other hother hsame => ?_
      rw [hdirectory] at hsame
      exact halone other (List.mem_cons_of_mem _ hother) hsame

end Desk

end Phrasebook
