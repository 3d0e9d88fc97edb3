import Phrasebook.Proofs.LiveReferences
import Phrasebook.Proofs.Places
import Phrasebook.Proofs.SparedFiles
import Phrasebook.Proofs.WatchCoherence

/-!
# Where outputs are written

The output of a source file is written at the path of the file as seen from the output directory. A
path that never leads above where it starts leads below that directory from there. A build and the
passes of a watch change nothing outside of it then but the locale files, whatever they end with.
The paths of source files are seen from the root of the project; those of sources beside the root
lead above it.

Results:
* `Build.confined_of_action`, `Watch.confined_of_passes`: what a build and a pass of a watch keep.
* `Project.changesBelow_of_run`: which files builds and watches change.
-/

namespace Phrasebook

/-! ## What stays below a directory -/

namespace Project

open SessionAction

variable {project : Project} {outDirectory? : Option String} {first : FileTree}

/-- The place is neither that of a locale file nor below the output directory. -/
def IsForeign (project : Project) (outDirectory? : Option String) (workingDirectory place : Place) :
    Prop :=
  ¬project.locales.IsPlace workingDirectory place
    ∧ ∀ directory ∈ outDirectory?,
      ¬FileTree.LiesBelow (FileTree.placeOf workingDirectory directory) place

/-- The files at foreign places are those of an earlier tree, and only files with paths that stay
below their start have phrases that are pending. -/
structure Confined (project : Project) (outDirectory? : Option String) (first : FileTree)
    (session : Session) : Prop where
  files : FileTree.Spares (project.IsForeign outDirectory? first.workingDirectory) first
    session.files
  pending : ∀ file ∈ session.pending.files.keys, Path.staysBelow file = true

/-- Reading a unit changes nothing. -/
theorem ensures_readUnit (file : String) :
    Ensures (project.Confined outDirectory? first) (onFiles (project.scope.readUnit file))
      fun unit => unit.path = file := by
  intro session hsession
  unfold EndsIn
  rw [show StateT.run (ExceptT.run (onFiles (project.scope.readUnit file))) session = _ from
    runOn_onFiles _ session, SourceScope.runOn_readUnit]
  refine ⟨hsession, fun unit hunit => ?_⟩
  cases hread : session.files.readText (project.scope.resolve file) with
  | error fault =>
    rw [hread] at hunit
    cases hunit
  | ok code =>
    rw [hread] at hunit
    cases hunit
    rfl

/-- Phrases become pending for the file of their unit alone. -/
theorem ensures_rewriteCollecting (mode : BuildMode) {unit : SourceUnit}
    (hunit : Path.staysBelow unit.path = true) :
    Ensures (project.Confined outDirectory? first) (project.rewriteCollecting mode unit)
      fun _ => True := by
  intro session hsession
  refine ⟨?_, fun _ _ => trivial⟩
  show project.Confined outDirectory? first ((project.rewriteCollecting mode unit).runOn session).2
  unfold rewriteCollecting
  rw [runOn_bind_of_runOn (runOn_session session)]
  cases hrewrite : project.rules.rewrite session.index unit with
  | error problem => exact hsession
  | ok rewriting =>
    cases mode with
    | production => exact hsession
    | development =>
      refine ⟨hsession.files, fun file hmem => ?_⟩
      rcases Pending.mem_files_addUnresolved.1 hmem with hold | ⟨request, hrequest, rfl⟩
      · exact hsession.pending file hold
      · rw [MarkerRules.file_of_mem_unresolved hrewrite hrequest]
        exact hunit

/-- A flush changes locale files, and tells of files that had pending phrases. -/
theorem ensures_flush (translator : Translator) :
    Ensures (project.Confined outDirectory? first) (project.flush translator)
      fun flush => ∀ file ∈ flush.affected.keys, Path.staysBelow file = true := by
  intro session hsession
  rcases hrun : (project.flush translator).runOn session with ⟨found, after⟩
  have hended := ended_of_flush hrun
  unfold EndsIn
  rw [show StateT.run (ExceptT.run (project.flush translator)) session = _ from hrun]
  have hfiles : FileTree.Spares (project.IsForeign outDirectory? first.workingDirectory)
      session.files after.files := by
    refine spares_of_flush hrun fun place hforeign => ?_
    rw [hsession.files.workingDirectory]
    exact hforeign.1
  refine ⟨⟨hsession.files.trans hfiles, fun file hmem => ?_⟩, ?_⟩
  · rw [hended.pending_eq] at hmem
    cases hmem
  · rintro flush rfl file hmem
    rw [hended.affected_eq] at hmem
    exact hsession.pending file hmem

/-- A text whose path stays below its start is written below the output directory. -/
theorem ensures_writeBelow {directory : String} (hdirectory : outDirectory? = some directory)
    {file : String} (hfile : Path.staysBelow file = true) (text : String) :
    Ensures (project.Confined outDirectory? first)
      (onFiles (FileAction.writeBelow directory file text)) fun _ => True := by
  intro session hsession
  refine ⟨?_, fun _ _ => trivial⟩
  rw [show StateT.run (ExceptT.run (onFiles _)) session = _ from runOn_onFiles _ session]
  refine ⟨hsession.files.trans (FileAction.spares_of_writeBelow rfl fun place hforeign hkey => ?_),
    hsession.pending⟩
  obtain ⟨rest, hrest⟩ :=
    FileTree.liesBelow_of_staysBelow first.workingDirectory directory hfile
  refine hforeign.2 directory hdirectory ⟨rest, ?_⟩
  rw [hkey, hsession.files.workingDirectory, hrest]

end Project

namespace Desk

open HostAction

variable {project : Project} {outDirectory? : Option String} {first : FileTree}

/-- A session is confined, and only files with paths that stay below their start have outputs. -/
structure Confined (project : Project) (outDirectory? : Option String) (first : FileTree)
    (state : Session × Desk) : Prop where
  session : project.Confined outDirectory? first state.1
  outputs : ∀ file, (state.2.feed.outputs.get? file).isSome → Path.staysBelow file = true

theorem ensures_complain (text : Report → String) :
    Ensures (Confined project outDirectory? first) (complain text) fun _ => True :=
  ensures_keep fun _ _ h => ⟨h.session, h.outputs⟩

theorem ensures_tell (text : Report → String) :
    Ensures (Confined project outDirectory? first) (tell text) fun _ => True :=
  ensures_keep fun _ _ h => ⟨h.session, h.outputs⟩

theorem ensures_tellNotices :
    Ensures (Confined project outDirectory? first) tellNotices fun _ => True :=
  fun _ h => ⟨⟨⟨h.session.files, h.session.pending⟩, h.outputs⟩, fun _ _ => trivial⟩

/-- What a desk keeps has outputs of such files alone. -/
theorem ensures_outputs :
    Ensures (Confined project outDirectory? first) kept fun desk => ∀ file,
      (desk.feed.outputs.get? file).isSome → Path.staysBelow file = true :=
  ensures_kept fun _ _ h => h.outputs

/-- What a session keeps is kept at a desk. -/
theorem ensures_atSession {α : Type} {action : SessionAction α} {post : α → Prop}
    (h : Ensures (project.Confined outDirectory? first) action post) :
    Ensures (Confined project outDirectory? first) (onSession action) post :=
  ensures_onSession fun _ session hstate =>
    ⟨⟨(h session hstate.session).1, hstate.outputs⟩, (h session hstate.session).2⟩

theorem ensures_work {α : Type} {action : SessionAction α} {post : α → Prop}
    (h : Ensures (project.Confined outDirectory? first) action post) :
    Ensures (Confined project outDirectory? first) (work action) post :=
  ensures_bind (ensures_attempt (ensures_atSession h)) fun _ hfound =>
    ensures_bind ensures_tellNotices fun _ _ => ensures_orThrow hfound

/-- **Feeding a file** whose path stays below its start. -/
theorem ensures_feedFile (mode : BuildMode) {file : String} (hfile : Path.staysBelow file = true) :
    Ensures (Confined project outDirectory? first) (feedFile project mode file) fun _ => True := by
  refine ensures_bind (ensures_atSession (project.ensures_readUnit file)) fun unit hunit => ?_
  refine ensures_bind (ensures_attempt (ensures_atSession
    (project.ensures_rewriteCollecting mode (hunit ▸ hfile)))) fun found _ => ?_
  refine ensures_bind ensures_outputs fun desk hdesk => ?_
  have houtputs : ∀ other, ((desk.feed.take file found).1.outputs.get? other).isSome →
      Path.staysBelow other = true := by
    intro other hother
    unfold Feed.take at hother
    split at hother
    · rw [Feed.get?_outputs_accept] at hother
      split at hother
      · next hsame => exact hsame ▸ hfile
      · exact hdesk other hother
    · rw [Feed.get?_outputs_reject] at hother
      split at hother
      · cases hother
      · exact hdesk other hother
    · exact hdesk other hother
  rcases hfeed : desk.feed.take file found with ⟨feed, problem?⟩
  rw [hfeed] at houtputs
  refine ensures_bind (ensures_keep fun _ _ hstate => ⟨hstate.session, houtputs⟩) fun _ _ => ?_
  cases problem? with
  | some problem => exact ensures_throw problem
  | none => exact ensures_pure trivial

theorem ensures_feedFiles (mode : BuildMode) {files : List String}
    (hfiles : ∀ file ∈ files, Path.staysBelow file = true) :
    Ensures (Confined project outDirectory? first) (feedFiles project mode files)
      fun _ => True := by
  induction files with
  | nil => exact ensures_pure trivial
  | cons file rest ih =>
    exact ensures_bind (ensures_feedFile mode (hfiles file List.mem_cons_self)) fun _ _ =>
      ih fun other hmem => hfiles other (List.mem_cons_of_mem _ hmem)

/-- **Writing outputs** of files whose paths stay below their start. -/
theorem ensures_writeOutputsBelow {directory : String} (hdirectory : outDirectory? = some directory)
    {outputs : List (String × Rewriting)}
    (houtputs : ∀ output ∈ outputs, Path.staysBelow output.1 = true) :
    Ensures (Confined project outDirectory? first) (writeOutputs directory outputs)
      fun _ => True :=
  ensures_writeOutputs fun output hmem =>
    ensures_atSession (Project.ensures_writeBelow hdirectory (houtputs output hmem) _)

theorem ensures_tellUnresolved (severity : Severity) :
    Ensures (Confined project outDirectory? first) (tellUnresolved severity) fun _ => True :=
  ensures_bind ensures_outputs fun _ _ =>
    ensures_bind (ensures_keep fun _ _ h => ⟨h.session, h.outputs⟩) fun _ _ => ensures_pure trivial

theorem ensures_tellSummary (written : Bool) :
    Ensures (Confined project outDirectory? first) (tellSummary written) fun _ => True :=
  ensures_bind ensures_outputs fun _ _ => ensures_tell _

/-- What is listed of a confined feed. -/
theorem staysBelow_of_mem_outputs {feed : Feed}
    (h : ∀ file, (feed.outputs.get? file).isSome → Path.staysBelow file = true)
    {output : String × Rewriting} (hmem : output ∈ feed.outputs.toList) :
    Path.staysBelow output.1 = true :=
  h output.1 (by rw [Dictionary.mem_toList.1 hmem]; rfl)

end Desk

/-! ## Builds -/

namespace Build

open HostAction Desk

variable {project : Project} {outDirectory? : Option String} {first : FileTree}

theorem ensures_translate (translator : Translator) :
    Ensures (Confined project outDirectory? first) (translate project translator)
      fun _ => True := by
  refine ensures_bind (ensures_attempt (ensures_work (project.ensures_flush translator)))
    fun found hfound => ?_
  cases found with
  | ok flush =>
    exact ensures_bind (ensures_tell _) fun _ _ => ensures_feedFiles .development (hfound flush rfl)
  | error problem =>
    dsimp only
    split
    · exact ensures_throw problem
    · exact ensures_pure trivial

theorem ensures_judge :
    Ensures (Confined project outDirectory? first) judge fun _ => True := by
  refine ensures_bind ensures_outputs fun desk _ => ?_
  dsimp only
  split
  · exact ensures_bind (ensures_complain _) fun _ _ => ensures_pure trivial
  · split
    · exact ensures_pure trivial
    · refine ensures_bind (ensures_tellUnresolved _) fun told _ => ?_
      split
      · exact ensures_bind (ensures_complain _) fun _ _ => ensures_pure trivial
      · exact ensures_pure trivial

theorem ensures_improve (translator : Translator) :
    Ensures (Confined project outDirectory? first) (improve project translator)
      fun _ => True := by
  have hlast : Ensures (Confined project outDirectory? first) (do
      if (← kept).feed.unresolved.isEmpty then pure ExitStatus.success
      else if ← tellUnresolved .warning then pure .failure
      else pure .broken) fun _ => True := by
    refine ensures_bind ensures_outputs fun desk _ => ?_
    split
    · exact ensures_pure trivial
    · refine ensures_bind (ensures_tellUnresolved _) fun told _ => ?_
      split <;> exact ensures_pure trivial
  refine ensures_bind ensures_outputs fun desk _ => ensures_bind (ensures_complain _) fun _ _ => ?_
  have hsession : Ensures (Confined project outDirectory? first) session fun _ => True :=
    ensures_session fun _ _ _ => trivial
  refine ensures_bind hsession fun session _ => ?_
  dsimp only
  split
  · exact ensures_bind (ensures_translate translator) fun _ _ => hlast
  · exact hlast

/-- **The outputs of a build** are written below the output directory. -/
theorem ensures_finish :
    Ensures (Confined project outDirectory? first) (finish outDirectory?) fun _ => True := by
  cases houtDirectory : outDirectory? with
  | none => exact ensures_tellSummary _
  | some directory =>
    refine ensures_bind ensures_outputs fun desk hdesk => ?_
    exact ensures_bind (ensures_writeOutputsBelow rfl fun output hmem =>
      staysBelow_of_mem_outputs hdesk hmem) fun _ _ => ensures_tellSummary _

/-- **A build** of files whose paths stay below their start, whatever it ends with. -/
theorem confined_of_action {mode : BuildMode} {translator : Translator} {start : Session}
    {console : Console} (hstart : project.Confined outDirectory? start.files start)
    (hnames : ∀ file ∈ project.searched start.files, Path.staysBelow file = true) :
    Confined project outDirectory? start.files
      (runOn (action project mode translator outDirectory?) start ⟨console, Feed.empty⟩).2 := by
  have hfirst : EndsIn (Confined project outDirectory? start.files) (work project.sourceFiles)
      (fun files => ∀ file ∈ files, Path.staysBelow file = true)
      (start, ⟨console, Feed.empty⟩) := by
    unfold EndsIn
    rw [show StateT.run (ExceptT.run (work project.sourceFiles)) _ = _ from
      runOn_work project.sourceFiles start ⟨console, Feed.empty⟩]
    refine ⟨⟨⟨hstart.files, hstart.pending⟩, fun file hfile => ?_⟩, fun files hfiles => ?_⟩
    · cases hfile
    · cases hfiles
      exact hnames
  refine (endsIn_bind hfirst fun files hfiles => ?_ :
    EndsIn _ (action project mode translator outDirectory?) (fun _ => True) _).1
  refine ensures_bind (ensures_feedFiles mode hfiles) fun _ _ => ?_
  have hlast : ∀ status : ExitStatus, Ensures (Confined project outDirectory? start.files) (do
      if status.goesOn then finish outDirectory?
      pure status) fun _ => True := by
    intro status
    split
    · exact ensures_bind ensures_finish fun _ _ => ensures_pure trivial
    · exact ensures_pure trivial
  cases mode with
  | production => exact ensures_bind ensures_judge fun status _ => hlast status
  | development => exact ensures_bind (ensures_improve translator) fun status _ => hlast status

end Build

/-! ## Watches -/

namespace Watch

open HostAction Desk

variable {project : Project} {outDirectory? : Option String} {first : FileTree}

/-- The desk of a watch is confined. -/
def Confined (project : Project) (outDirectory? : Option String) (first : FileTree)
    (state : Session × Watch) : Prop :=
  Desk.Confined project outDirectory? first (state.1, state.2.toDesk)

/-- What is kept at the desk is kept by the watch. -/
theorem ensures_atDesk {α : Type} {action : HostAction Desk α} {post : α → Prop}
    (h : Ensures (Desk.Confined project outDirectory? first) action post) :
    Ensures (Confined project outDirectory? first) (atDesk action) post := by
  rintro ⟨session, watch⟩ hstate
  unfold EndsIn
  rw [show StateT.run (ExceptT.run (atDesk action)) (session, watch) = _ from
    runOn_atDesk action session watch]
  exact h (session, watch.toDesk) hstate

theorem ensures_touch (files : List String) :
    Ensures (Confined project outDirectory? first) (touch files) fun _ => True :=
  ensures_keep fun _ _ h => h

/-- Looking around feeds source files. -/
theorem endsIn_lookAround {session : Session} {watch : Watch}
    (hstate : Confined project outDirectory? first (session, watch))
    (hnames : ∀ file ∈ project.searched session.files, Path.staysBelow file = true) :
    EndsIn (Confined project outDirectory? first) (lookAround project) (fun _ => True)
      (session, watch) := by
  unfold EndsIn
  rw [show StateT.run (ExceptT.run (lookAround project)) (session, watch) = _ from
    runOn_lookAround project session watch]
  refine (ensures_bind (ensures_atDesk (ensures_feedFiles .development fun file hmem => ?_))
    fun _ _ => ensures_touch _) _ ⟨⟨hstate.session.files, hstate.session.pending⟩, ?_⟩
  · exact hnames file (mem_lookAt.1 hmem).1
  · intro file hfile
    rw [Feed.get?_outputs_retain] at hfile
    split at hfile
    · exact hstate.outputs file hfile
    · cases hfile

theorem ensures_writeTouched :
    Ensures (Confined project outDirectory? first) (writeTouched outDirectory?)
      fun _ => True := by
  have hkept : Ensures (Confined project outDirectory? first) kept fun watch => ∀ file,
      (watch.feed.outputs.get? file).isSome → Path.staysBelow file = true :=
    ensures_kept fun _ _ hstate => hstate.outputs
  refine ensures_bind hkept fun watch hwatch => ?_
  refine ensures_bind (ensures_keep fun _ _ hstate => hstate) fun _ _ => ?_
  split
  · refine ensures_bind (ensures_atDesk (ensures_complain _)) fun _ _ => ?_
    cases houtDirectory : outDirectory? with
    | none => exact ensures_atDesk (ensures_tellSummary _)
    | some directory =>
      refine ensures_bind (ensures_atDesk (ensures_writeOutputsBelow rfl fun output hmem => ?_))
        fun _ _ => ensures_atDesk (ensures_tellSummary _)
      exact staysBelow_of_mem_outputs hwatch (List.mem_filter.1 hmem).1
  · exact ensures_pure trivial

theorem ensures_afterFlush {flush : Flush}
    (hflush : ∀ file ∈ flush.affected.keys, Path.staysBelow file = true) :
    Ensures (Confined project outDirectory? first) ((host project outDirectory?).afterFlush flush)
      fun _ => True :=
  ensures_bind (ensures_atDesk ensures_tellNotices) fun _ _ =>
    ensures_bind (ensures_atDesk (ensures_tell _)) fun _ _ =>
      ensures_bind (ensures_atDesk (ensures_feedFiles .development hflush)) fun _ _ =>
        ensures_bind (ensures_touch _) fun _ _ => ensures_writeTouched

/-- A pass of a watch: the first look or a tick, whatever it ends with. -/
inductive Passes (project : Project) (outDirectory? : Option String) :
    Session → Watch → Session → Watch → Prop
  | begin {before after : Session} {watch watchAfter : Watch} {found : Except Problem Unit}
      (h : runOn (begin project outDirectory?) before watch = (found, after, watchAfter)) :
      Passes project outDirectory? before watch after watchAfter
  | tick {translator : Translator} {before after : Session} {watch watchAfter : Watch}
      {found : Except Problem Unit}
      (h : runOn (tick project translator outDirectory?) before watch
        = (found, after, watchAfter)) :
      Passes project outDirectory? before watch after watchAfter

/-- **A pass of a watch** over files whose paths stay below their start. -/
theorem confined_of_passes {before after : Session} {watch watchAfter : Watch}
    (hstate : Confined project outDirectory? first (before, watch))
    (hnames : ∀ file ∈ project.searched before.files, Path.staysBelow file = true)
    (h : Passes project outDirectory? before watch after watchAfter) :
    Confined project outDirectory? first (after, watchAfter) := by
  cases h with
  | begin h =>
    have hends : EndsIn (Confined project outDirectory? first) (begin project outDirectory?)
        (fun _ => True) (before, watch) :=
      endsIn_bind (endsIn_lookAround hstate hnames) fun _ _ => ensures_writeTouched
    have hafter := hends.1
    rwa [show StateT.run (ExceptT.run (begin project outDirectory?)) (before, watch) = _ from h]
      at hafter
  | @tick translator _ _ _ _ _ h =>
    have hflush : Ensures (Confined project outDirectory? first)
        (attempt (onSession (project.flush translator))) fun found => ∀ flush, found = .ok flush →
          ∀ file ∈ flush.affected.keys, Path.staysBelow file = true :=
      ensures_attempt (ensures_onSession fun _ session hsession =>
        ⟨⟨(project.ensures_flush translator session hsession.session).1, hsession.outputs⟩,
          (project.ensures_flush translator session hsession.session).2⟩)
    have hwaited : EndsIn (Confined project outDirectory? first)
        (Schedule.flushBetween (host project outDirectory?) (project.flush translator))
        (fun _ => True) (woken before, watch) := by
      refine endsIn_bind (endsIn_lookAround ⟨⟨hstate.session.files, hstate.session.pending⟩,
        hstate.outputs⟩ hnames) fun _ _ => ensures_bind hflush fun found hfound => ?_
      cases found with
      | ok flush => exact ensures_afterFlush (hfound flush rfl)
      | error problem =>
        dsimp only
        split
        · exact ensures_throw problem
        · exact ensures_pure trivial
    have hscheduled : EndsIn (Confined project outDirectory? first)
        (Schedule.tick (host project outDirectory?) (project.flush translator)) (fun _ => True)
        (before, watch) := by
      unfold EndsIn
      rw [show StateT.run (ExceptT.run (Schedule.tick _ _)) (before, watch) = _ from
        runOn_bind_of_runOn (runOn_onSession SessionAction.awaitTick before watch)]
      exact hwaited
    have hends : EndsIn (Confined project outDirectory? first)
        (tick project translator outDirectory?) (fun _ => True) (before, watch) :=
      endsIn_bind (endsIn_attempt hscheduled) fun _ _ =>
        ensures_bind (ensures_atDesk ensures_tellNotices) fun _ _ =>
          ensures_orThrow fun _ _ => trivial
    have hafter := hends.1
    rwa [show StateT.run (ExceptT.run (tick project translator outDirectory?)) (before, watch) = _
      from h] at hafter

/-- The course of a watch from some session on: passes, and files edited by others between them. In
every pass the paths of all source files stay below their start. -/
inductive Runs (project : Project) (outDirectory? : Option String) (start : Session)
    (console : Console) : Session → Watch → Prop
  | start : Runs project outDirectory? start console start (Watch.start console)
  | pass {before after : Session} {watch watchAfter : Watch}
      (hbefore : Runs project outDirectory? start console before watch)
      (hnames : ∀ file ∈ project.searched before.files, Path.staysBelow file = true)
      (h : Passes project outDirectory? before watch after watchAfter) :
      Runs project outDirectory? start console after watchAfter
  | edit {before : Session} {watch : Watch} (files : FileTree)
      (hbefore : Runs project outDirectory? start console before watch) :
      Runs project outDirectory? start console { before with files } watch

/-- **A watch between its passes** has outputs and pending phrases of files whose paths stay below
their start. -/
theorem confined_of_runs {start before : Session} {console : Console} {watch : Watch}
    (hpending : start.pending = Pending.empty)
    (h : Runs project outDirectory? start console before watch) :
    Confined project outDirectory? before.files (before, watch) := by
  induction h with
  | start =>
    refine ⟨⟨.refl _ _, fun file hfile => ?_⟩, fun file hfile => ?_⟩
    · rw [hpending] at hfile
      cases hfile
    · cases hfile
  | pass _ hnames h ih =>
    have hafter := confined_of_passes ih hnames h
    exact ⟨⟨.refl _ _, hafter.session.pending⟩, hafter.outputs⟩
  | edit files _ ih => exact ⟨⟨.refl _ _, ih.session.pending⟩, ih.outputs⟩

end Watch

/-! ## Changed files -/

/-- Which files a command changed that writes below a directory: files below it and locale files,
and no source file, unless it is below the directory itself. -/
structure Project.ChangesBelow (project : Project) (directory : String) (before after : FileTree) :
    Prop where
  changed : ∀ place, after.fileAt? place ≠ before.fileAt? place →
    project.locales.IsPlace before.workingDirectory place
      ∨ FileTree.LiesBelow (FileTree.placeOf before.workingDirectory directory) place
  sources : ∀ file ∈ project.searched before,
    ¬FileTree.LiesBelow (FileTree.placeOf before.workingDirectory directory)
      (FileTree.placeOf before.workingDirectory (project.scope.resolve file)) →
    after.fileAt? (FileTree.placeOf before.workingDirectory (project.scope.resolve file))
      = before.fileAt? (FileTree.placeOf before.workingDirectory (project.scope.resolve file))

theorem Project.Confined.changesBelow {project : Project} {directory : String} {before : FileTree}
    {after : Session} (h : project.Confined (some directory) before after) :
    project.ChangesBelow directory before after.files := by
  have hspared : ∀ place, ¬project.locales.IsPlace before.workingDirectory place →
      ¬FileTree.LiesBelow (FileTree.placeOf before.workingDirectory directory) place →
      after.files.fileAt? place = before.fileAt? place := by
    intro place hlocale hbelow
    refine h.files.fileAt? place ⟨hlocale, fun other hother => ?_⟩
    cases hother
    exact hbelow
  constructor
  · intro place hchanged
    by_cases hlocale : project.locales.IsPlace before.workingDirectory place
    · exact .inl hlocale
    · by_cases hbelow : FileTree.LiesBelow
          (FileTree.placeOf before.workingDirectory directory) place
      · exact .inr hbelow
      · exact absurd (hspared place hlocale hbelow) hchanged
  · intro file hfile hbelow
    refine hspared _ (fun hlocale => ?_) hbelow
    rcases hlocale with hkey | hkey
    · exact SourceScope.keyOf_resolve_ne_fileKey hfile _ _ _ hkey
    · exact SourceScope.keyOf_resolve_ne_fileKey hfile _ _ _ hkey

/-- **Outputs stay below the output directory**, if the paths of all source files stay below their
start. A build and every pass of a watch, whatever they end with, then change no file outside of the
directory but the locale files. They change no source file if the directory holds none. -/
theorem Project.changesBelow_of_run (project : Project) (directory : String) {files : FileTree}
    {start : Session} (hstart : project.start files = .ok start) (console : Console) :
    ((∀ file ∈ project.searched files, Path.staysBelow file = true) → ∀ mode translator,
      project.ChangesBelow directory files
        (HostAction.runOn (Build.action project mode translator (some directory)) start
          ⟨console, Feed.empty⟩).2.1.files)
    ∧ ∀ before watch after watchAfter,
      Watch.Runs project (some directory) start console before watch →
      (∀ file ∈ project.searched before.files, Path.staysBelow file = true) →
      Watch.Passes project (some directory) before watch after watchAfter →
      project.ChangesBelow directory before.files after.files := by
  obtain ⟨rfl, hpending, -⟩ := eq_of_start hstart
  constructor
  · intro hnames mode translator
    refine (Build.confined_of_action ⟨.refl _ _, fun file hfile => ?_⟩ hnames).session.changesBelow
    rw [hpending] at hfile
    cases hfile
  · intro before watch after watchAfter hruns hnames hpasses
    exact (Watch.confined_of_passes (Watch.confined_of_runs hpending hruns) hnames
      hpasses).session.changesBelow

/-- The small project is built, and a watch of it begins. -/
theorem Project.changesBelow_small_of_run :
    small.searched (smallStart []).files = ["src/app.ts"]
      ∧ smallBuilt.1.files.readText "dist/src/app.ts" = .ok "i18n.t('hello')"
      ∧ small.ChangesBelow "dist" (smallStart []).files smallBuilt.1.files
      ∧ Watch.smallBegun.1.files.readText "dist/src/app.ts" = .ok "i18n.s('你好')"
      ∧ small.ChangesBelow "dist" (smallStart []).files Watch.smallBegun.1.files := by
  have hnames : ∀ file ∈ small.searched (smallStart []).files, Path.staysBelow file = true := by
    decide +kernel
  obtain ⟨hbuild, hwatch⟩ :=
    changesBelow_of_run small "dist" start_smallStart (Console.start false false)
  exact ⟨by decide +kernel, by decide +kernel, hbuild hnames .development smallTranslator,
    by decide +kernel, hwatch _ _ _ _ .start hnames (.begin rfl)⟩

/-! ## Outputs over their sources -/

/-- **An output may be written over its own source.** No source file is below the output directory.
But the path of a source beside the root leads out of it again. -/
theorem Project.not_changesBelow_of_run :
    ¬∀ (project : Project) (directory : String) (files : FileTree) (start : Session),
      project.settings.validate = .ok project.settings → project.start files = .ok start →
      (∀ file ∈ project.searched files,
        ¬FileTree.LiesBelow (FileTree.placeOf files.workingDirectory directory)
          (FileTree.placeOf files.workingDirectory (project.scope.resolve file))) →
      ∀ (console : Console) (mode : BuildMode) (translator : Translator),
        project.ChangesBelow directory files
          (HostAction.runOn (Build.action project mode translator (some directory)) start
            ⟨console, Feed.empty⟩).2.1.files := by
  intro hall
  have hsearched : Watch.straying.searched Watch.strayingFiles = ["../ext/app.ts"] := by
    decide +kernel
  have hbelow : ∀ file ∈ Watch.straying.searched Watch.strayingFiles,
      ¬FileTree.LiesBelow (FileTree.placeOf Watch.strayingFiles.workingDirectory "dist")
        (FileTree.placeOf Watch.strayingFiles.workingDirectory
          (Watch.straying.scope.resolve file)) := by
    intro file hfile hbelow
    rw [hsearched, List.mem_singleton] at hfile
    subst hfile
    exact absurd (FileTree.keyOf_prefix_of_liesBelow hbelow) (by decide +kernel)
  have hsource := (hall Watch.straying "dist" Watch.strayingFiles Watch.strayingStart
    (by decide +kernel) (by decide +kernel) hbelow (Console.start false false) .production
    smallTranslator).sources "../ext/app.ts" (by decide +kernel)
      (hbelow _ (by decide +kernel))
  exact absurd hsource (by decide +kernel)

end Phrasebook
