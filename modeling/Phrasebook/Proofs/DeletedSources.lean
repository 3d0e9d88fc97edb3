import Phrasebook.Proofs.WatchCoherence

/-!
# Source files that are taken away

While a watch goes on, others may change and take away files at any moment: between two ticks, while
a flush awaits its translations, and before the flush is reported (`Watch.Turn`). A file that is not
there at a look only loses its output. But a flush feeds again the files whose phrases it took up,
and a file of these that is gone by then ends the watch. Nothing else that is gone does.

Results:
* `Watch.mem_of_fares`: only fed files have pending phrases, whatever others do to the files.
* `Watch.outcome_of_turn`: what a turn ends with, and what becomes of the outputs.
* `Watch.not_survives_of_removed`: a file that was taken away with phrases pending ends a watch.
-/

namespace Phrasebook

/-! ## Flushes among others -/

namespace Project

open SessionAction

variable {project : Project} {translator : Translator} {waiting reported : FileTree → FileTree}
  {before after : Session}

/-- A flush while others change the files: once while the translations are awaited, and once before
the flush is reported. -/
def flushAmid (project : Project) (translator : Translator)
    (waiting reported : FileTree → FileTree) : SessionAction Flush := do
  let pending := (← session).pending
  modify fun session => { session with pending := Pending.empty, files := waiting session.files }
  let flush ← project.flushPending translator pending
  modify fun session => { session with files := reported session.files }
  pure flush

theorem runOn_flushAmid (project : Project) (translator : Translator)
    (waiting reported : FileTree → FileTree) (before : Session) :
    (project.flushAmid translator waiting reported).runOn before
      = match (project.flushPending translator before.pending).runOn
          { before with pending := Pending.empty, files := waiting before.files } with
        | (.ok flush, after) => (.ok flush, { after with files := reported after.files })
        | (.error problem, after) => (.error problem, after) := by
  unfold flushAmid
  rw [runOn_bind_of_runOn (runOn_session before)]
  dsimp only
  rw [runOn_bind_of_runOn (runOn_modify _ before)]
  rcases hflush : (project.flushPending translator before.pending).runOn
    { before with pending := Pending.empty, files := waiting before.files } with ⟨found, after⟩
  cases found with
  | error problem => rw [runOn_bind_of_runOn_error hflush]
  | ok flush => rw [runOn_bind_of_runOn hflush]; rfl

/-- **A flush is one in which others leave the files alone.** -/
theorem flushAmid_id (project : Project) (translator : Translator) :
    project.flushAmid translator id id = project.flush translator := by
  have hsame : ∀ session, (project.flushAmid translator id id).runOn session
      = (project.flush translator).runOn session := by
    intro session
    have hstart : { session with pending := Pending.empty, files := id session.files }
        = unpended session := rfl
    rw [runOn_flushAmid, runOn_flush, hstart]
    rcases (project.flushPending translator session.pending).runOn (unpended session) with
      ⟨_ | _, _⟩ <;> rfl
  exact funext hsame

theorem isFatal_of_flushAmid {problem : Problem}
    (h : (project.flushAmid translator waiting reported).runOn before = (.error problem, after)) :
    problem.isFatal = true := by
  have hended := project.ended_flushPending translator before.pending
    { before with pending := Pending.empty, files := waiting before.files }
  rw [runOn_flushAmid] at h
  split at h
  · cases h
  · next hflush =>
    cases h
    rw [hflush] at hended
    exact hended.exists_of_error.1

/-- The affected files of a flush are those of the phrases that were pending, and nothing is pending
then. -/
theorem affected_of_flushAmid {flush : Flush}
    (h : (project.flushAmid translator waiting reported).runOn before = (.ok flush, after)) :
    flush.affected = before.pending.files ∧ after.pending = Pending.empty := by
  have hended := project.ended_flushPending translator before.pending
    { before with pending := Pending.empty, files := waiting before.files }
  rw [runOn_flushAmid] at h
  split at h
  · next hflush =>
    cases h
    rw [hflush] at hended
    exact ⟨hended.affected_eq, hended.pending_eq⟩
  · cases h

end Project

namespace Watch

open HostAction Desk

variable {project : Project} {outDirectory? : Option String} {files : FileTree}
  {before after : Session} {watch watchAfter : Watch} {fed : List String} {file : String}

/-! ## Turns -/

/-- What happens between two ticks and during the second one: how others change the files before it,
while its translations are awaited and before its flush is reported, and how it is translated. -/
structure Turn where
  edit : FileTree → FileTree
  translator : Translator
  waiting : FileTree → FileTree
  reported : FileTree → FileTree

/-- The session at the tick of a turn. -/
def Turn.edited (turn : Turn) (session : Session) : Session :=
  { session with files := turn.edit session.files }

/-- A turn of a watch. -/
def turn (project : Project) (outDirectory? : Option String) (turn : Turn) :
    HostAction Watch Unit := do
  onSession (modify turn.edited)
  tickWith project (project.flushAmid turn.translator turn.waiting turn.reported) outDirectory?

theorem runOn_turn (turn : Turn) (before : Session) (watch : Watch) :
    runOn (Watch.turn project outDirectory? turn) before watch
      = runOn (tickWith project
          (project.flushAmid turn.translator turn.waiting turn.reported) outDirectory?)
        (turn.edited before) watch :=
  runOn_bind_of_runOn (show runOn (onSession (modify turn.edited)) before watch
    = (.ok (), turn.edited before, watch) from rfl)

/-- **A tick is a turn** in which others change files before the tick alone. -/
theorem runOn_turn_id (edit : FileTree → FileTree) (translator : Translator) (before : Session)
    (watch : Watch) :
    runOn (Watch.turn project outDirectory? ⟨edit, translator, id, id⟩) before watch
      = runOn (tick project translator outDirectory?)
        { before with files := edit before.files } watch := by
  rw [runOn_turn, Project.flushAmid_id]
  rfl

/-- The source files that a look finds written. -/
def changed (project : Project) (session : Session) (watch : Watch) : List String :=
  (lookAt project.scope session.files watch.stamps (project.searched session.files)).1

/-- A file that is found written is there. -/
theorem contains_of_mem_changed (h : file ∈ changed project before watch) :
    before.files.contains (project.scope.resolve file) = true := by
  obtain ⟨-, stamp, hstamp, -⟩ := mem_lookAt.1 h
  unfold FileTree.stamp? at hstamp
  unfold FileTree.contains
  cases hentry : before.files.entry? (project.scope.resolve file) with
  | none =>
    rw [hentry] at hstamp
    cases hstamp
  | some entry => rfl

/-- Looking around makes only what was found written pending. -/
theorem mem_of_looksAround (hlook : LooksAround project before watch after watchAfter)
    (hmem : file ∈ after.pending.files.keys) :
    file ∈ before.pending.files.keys ∨ file ∈ changed project before watch := by
  obtain ⟨looked, hagrees, hfed⟩ := hlook.fed
  rw [← hagrees.pending]
  exact hfed.files_subset hmem

/-! ## Watches among others -/

/-- A watch under way, whatever others do to the files, with the files that it found written. -/
inductive Fares (project : Project) (outDirectory? : Option String) (files : FileTree) :
    List String → Session → Watch → Prop
  | begun {console : Console} {start after : Session} {watchAfter : Watch}
      (hstart : project.start files = .ok start)
      (h : runOn (begin project outDirectory?) start (Watch.start console)
        = (.ok (), after, watchAfter)) :
      Fares project outDirectory? files (changed project start (Watch.start console)) after
        watchAfter
  | turned {turn : Turn} {fed : List String} {before after : Session} {watch watchAfter : Watch}
      (hbefore : Fares project outDirectory? files fed before watch)
      (h : runOn (Watch.turn project outDirectory? turn) before watch
        = (.ok (), after, watchAfter)) :
      Fares project outDirectory? files (fed ++ changed project (turn.edited before) watch) after
        watchAfter

/-- Writing leaves what is pending alone. -/
theorem Writes.pending {feed : Feed} (h : Writes outDirectory? before feed after) :
    after.pending = before.pending := by
  cases h with
  | nothing => rfl
  | outputs _ _ hwrite => rw [(eq_of_writeOutputs hwrite).1]

/-- What a turn comes to before the affected files are fed again. -/
structure Flushes (project : Project) (turn : Turn) (before : Session) (watch : Watch)
    (looked : Session) (watchLooked : Watch) (flush : Flush) (flushed : Session) : Prop where
  look : runOn (lookAround project) (woken (turn.edited before)) watch
    = (.ok (), looked, watchLooked)
  flush : (project.flushAmid turn.translator turn.waiting turn.reported).runOn looked
    = (.ok flush, flushed)

/-- A successful turn feeds the files again whose phrases its flush took up. -/
theorem exists_flushes_of_turn {turn : Turn}
    (h : runOn (Watch.turn project outDirectory? turn) before watch = (.ok (), after, watchAfter)) :
    ∃ looked watchLooked flush flushed told fed,
      Flushes project turn before watch looked watchLooked flush flushed
        ∧ told.Agrees flushed
        ∧ project.FedAll looked.pending.files.keys told watchLooked.feed fed watchAfter.feed
        ∧ after.pending = fed.pending := by
  rw [runOn_turn] at h
  cases parts_of_tickWith Project.isFatal_of_flushAmid h with
  | following hlook hflush hfollow hagrees hfeed hstamps =>
    obtain ⟨told, fed, htold, hfed, hwrites, -⟩ := writes_of_afterFlush hfollow
    rw [(Project.affected_of_flushAmid hflush).1, ← hfeed] at hfed
    exact ⟨_, _, _, _, told, fed, ⟨hlook, hflush⟩, htold, hfed,
      hagrees.pending.trans hwrites.pending⟩

/-- **Only fed files have pending phrases**, whatever others do to the files. -/
theorem mem_of_fares (h : Fares project outDirectory? files fed after watchAfter)
    (hmem : file ∈ after.pending.files.keys) : file ∈ fed := by
  induction h with
  | begun hstart hbegin =>
    unfold begin at hbegin
    obtain ⟨_, looked, watchLooked, hlook, hwrite⟩ := exists_of_runOn_bind hbegin
    rw [(writes_of_writeTouched hwrite).2.2.pending] at hmem
    refine (mem_of_looksAround (looksAround_of_lookAround hlook) hmem).resolve_left fun hold => ?_
    rw [(Project.eq_of_start hstart).2.1] at hold
    exact absurd hold List.not_mem_nil
  | @turned turn fed before after watch watchAfter _ hturn ih =>
    obtain ⟨looked, watchLooked, flush, flushed, told, last, hflushes, htold, hfed, hpending⟩ :=
      exists_flushes_of_turn hturn
    have hnothing := (Project.affected_of_flushAmid hflushes.flush).2
    -- What is pending was fed again, so that it was pending after the look.
    have hlooked : file ∈ looked.pending.files.keys := by
      rw [hpending] at hmem
      refine (hfed.files_subset hmem).resolve_left fun hold => ?_
      rw [htold.pending, hnothing] at hold
      exact absurd hold List.not_mem_nil
    exact List.mem_append.2
      ((mem_of_looksAround (looksAround_of_lookAround hflushes.look) hlooked).imp_left ih)

/-! ## How a turn ends -/

/-- A file whose phrases a flush took up is gone when it is to be fed again. -/
def Misses (project : Project) (turn : Turn) (before : Session) (watch : Watch) (file : String) :
    Prop :=
  ∃ looked watchLooked flush flushed,
    Flushes project turn before watch looked watchLooked flush flushed
      ∧ file ∈ looked.pending.files.keys
      ∧ flushed.files.contains (project.scope.resolve file) = false

/-- **What ends a turn though no source file is missing.** -/
inductive Stops (project : Project) (outDirectory? : Option String) (turn : Turn)
    (before : Session) (watch : Watch) (problem : Problem) : Prop
  /-- A file that was found written is there, but cannot be rewritten. -/
  | looking {file : String} {session : Session}
      (hmem : file ∈ changed project (turn.edited before) watch)
      (hfiles : session.files = turn.edit before.files)
      (there : session.files.contains (project.scope.resolve file) = true)
      (hrefuses : project.Refuses file session problem)
  /-- There was a problem with a locale file. -/
  | flushing {looked flushed : Session} {watchLooked : Watch}
      (hlook : runOn (lookAround project) (woken (turn.edited before)) watch
        = (.ok (), looked, watchLooked))
      (hflush : (project.flushAmid turn.translator turn.waiting turn.reported).runOn looked
        = (.error problem, flushed))
  /-- An affected file is there, but cannot be rewritten. -/
  | feeding {file : String} {session looked flushed : Session} {watchLooked : Watch} {flush : Flush}
      (hflushes : Flushes project turn before watch looked watchLooked flush flushed)
      (hmem : file ∈ looked.pending.files.keys) (hfiles : session.files = flushed.files)
      (there : session.files.contains (project.scope.resolve file) = true)
      (hrefuses : project.Refuses file session problem)
  /-- An output cannot be written. -/
  | writing {looked flushed told fed : Session} {watchLooked : Watch} {flush : Flush} {feed : Feed}
      {directory : String} {outputs : List (String × Rewriting)} {desk : Desk}
      {found : Session × Desk}
      (hflushes : Flushes project turn before watch looked watchLooked flush flushed)
      (htold : told.Agrees flushed)
      (hfed : project.FedAll looked.pending.files.keys told watchLooked.feed fed feed)
      (hdirectory : outDirectory? = some directory) (hsubset : outputs ⊆ feed.outputs.toList)
      (hwrite : runOn (writeOutputs directory outputs) fed desk = (.error problem, found))

/-- **What a turn does to the outputs** when it goes on. -/
structure Survives (project : Project) (turn : Turn) (before : Session) (watch : Watch)
    (looked flushed : Session) (feedAfter : Feed) : Prop where
  /-- The files whose phrases the flush took up are all there. -/
  there : ∀ file ∈ looked.pending.files.keys,
    flushed.files.contains (project.scope.resolve file) = true
  /-- Files that are gone lose their outputs. -/
  dropped : ∀ file, (turn.edit before.files).contains (project.scope.resolve file) = false →
    file ∉ looked.pending.files.keys → feedAfter.outputs.get? file = none
  /-- Files that are there, and are not fed, keep theirs. -/
  kept : ∀ file, (turn.edit before.files).contains (project.scope.resolve file) = true →
    file ∉ changed project (turn.edited before) watch → file ∉ looked.pending.files.keys →
    feedAfter.outputs.get? file = watch.feed.outputs.get? file

theorem contains_of_reads {tree : FileTree} {unit : SourceUnit}
    (h : project.scope.Reads tree unit) : tree.contains (project.scope.resolve unit.path) = true := by
  obtain ⟨stamp, hentry⟩ := FileTree.readText_eq_ok_iff_exists_stamp.1 h
  unfold FileTree.contains
  rw [hentry]
  rfl

/-- A turn that ends with a problem has a cause for it. -/
theorem stops_or_misses_of_turn {turn : Turn} {problem : Problem}
    (h : runOn (Watch.turn project outDirectory? turn) before watch
      = (.error problem, after, watchAfter)) :
    Stops project outDirectory? turn before watch problem
      ∨ ∃ file, Misses project turn before watch file := by
  rw [runOn_turn] at h
  cases parts_of_tickWith Project.isFatal_of_flushAmid h with
  | looking hlook =>
    obtain ⟨file, session, hmem, hfiles, hrefuses⟩ := exists_refuses_of_lookAround hlook
    refine .inl (.looking hmem hfiles ?_ hrefuses)
    rw [hfiles]
    exact contains_of_mem_changed hmem
  | flushing hlook hflush => exact .inl (.flushing hlook hflush)
  | @following _ flush looked flushed _ _ watchLooked _ _ hlook hflush hfollow _ _ _ =>
    have hflushes : Flushes project turn before watch looked watchLooked flush flushed :=
      ⟨hlook, hflush⟩
    have haffected := (Project.affected_of_flushAmid hflush).1
    rcases exists_of_afterFlush_error hfollow with
      ⟨file, session, hmem, hfiles, hrefuses⟩ | ⟨told, fed, feed, htold, hfed, hwrites⟩
    · rw [haffected] at hmem
      cases hthere : flushed.files.contains (project.scope.resolve file) with
      | false => exact .inr ⟨file, looked, watchLooked, flush, flushed, hflushes, hmem, hthere⟩
      | true => exact .inl (.feeding hflushes hmem hfiles (by rw [hfiles, hthere]) hrefuses)
    · rw [haffected] at hfed
      obtain ⟨directory, outputs, desk, found, hdirectory, hsubset, hwrite⟩ := hwrites
      exact .inl (.writing hflushes htold hfed hdirectory hsubset hwrite)

/-- A look keeps the outputs of the files that it does not find written, if they are there. -/
theorem get?_outputs_of_look {turn : Turn} {looked : Session} {watchLooked : Watch}
    (hlook : runOn (lookAround project) (woken (turn.edited before)) watch
      = (.ok (), looked, watchLooked))
    (hunchanged : file ∉ changed project (turn.edited before) watch) :
    watchLooked.feed.outputs.get? file
      = if (turn.edit before.files).contains (project.scope.resolve file)
        then watch.feed.outputs.get? file else none := by
  obtain ⟨_, -, hfed⟩ := (looksAround_of_lookAround hlook).fed
  rw [hfed.get?_outputs_of_not_mem hunchanged, Feed.get?_outputs_retain]
  rfl

/-- A turn that goes on misses no file. -/
theorem survives_of_turn {turn : Turn}
    (h : runOn (Watch.turn project outDirectory? turn) before watch = (.ok (), after, watchAfter)) :
    ∃ looked watchLooked flush flushed,
      Flushes project turn before watch looked watchLooked flush flushed
        ∧ Survives project turn before watch looked flushed watchAfter.feed := by
  obtain ⟨looked, watchLooked, flush, flushed, told, fed, hflushes, htold, hfed, -⟩ :=
    exists_flushes_of_turn h
  refine ⟨looked, watchLooked, flush, flushed, hflushes, fun file hmem => ?_,
    fun file hgone hnot => ?_, fun file hthere hunchanged hnot => ?_⟩
  · obtain ⟨unit, rfl, hread⟩ := hfed.exists_reads hmem
    rw [← htold.files]
    exact contains_of_reads hread
  · have hunchanged : file ∉ changed project (turn.edited before) watch := by
      intro hmem
      have hthere := contains_of_mem_changed hmem
      rw [show (turn.edited before).files = turn.edit before.files from rfl, hgone] at hthere
      cases hthere
    rw [hfed.get?_outputs_of_not_mem hnot, get?_outputs_of_look hflushes.look hunchanged,
      if_neg (by rw [hgone]; exact Bool.false_ne_true)]
  · rw [hfed.get?_outputs_of_not_mem hnot, get?_outputs_of_look hflushes.look hunchanged,
      if_pos hthere]

/-- **What a turn ends with.** A problem has another cause than a missing source file, or else there
is a file that was fed before, with phrases that the flush took up, and that is gone by then. A turn
that goes on misses no such file, and drops the outputs of the others that are gone. -/
theorem outcome_of_turn (hfares : Fares project outDirectory? files fed before watch) {turn : Turn}
    {found : Except Problem Unit}
    (h : runOn (Watch.turn project outDirectory? turn) before watch = (found, after, watchAfter)) :
    match found with
    | .error problem =>
      Stops project outDirectory? turn before watch problem
        ∨ ∃ file ∈ fed ++ changed project (turn.edited before) watch,
          Misses project turn before watch file
    | .ok () =>
      (∀ file, ¬Misses project turn before watch file)
        ∧ ∃ looked watchLooked flush flushed,
          Flushes project turn before watch looked watchLooked flush flushed
            ∧ Survives project turn before watch looked flushed watchAfter.feed := by
  cases found with
  | error problem =>
    refine (stops_or_misses_of_turn h).imp_right ?_
    rintro ⟨file, hmisses⟩
    obtain ⟨looked, watchLooked, flush, flushed, hflushes, hmem, hgone⟩ := hmisses
    refine ⟨file, List.mem_append.2 ?_, looked, watchLooked, flush, flushed, hflushes, hmem, hgone⟩
    exact (mem_of_looksAround (looksAround_of_lookAround hflushes.look) hmem).imp_left
      (mem_of_fares hfares)
  | ok value =>
    obtain ⟨looked, watchLooked, flush, flushed, hflushes, hsurvives⟩ := survives_of_turn h
    refine ⟨?_, looked, watchLooked, flush, flushed, hflushes, hsurvives⟩
    rintro file ⟨looked', watchLooked', flush', flushed', hflushes', hmem, hgone⟩
    -- Both flushes are the one of the turn.
    have hlook := hflushes'.look
    rw [hflushes.look] at hlook
    cases hlook
    have hflush := hflushes'.flush
    rw [hflushes.flush] at hflush
    cases hflush
    rw [hsurvives.there file hmem] at hgone
    cases hgone

/-- A turn in which nobody changes the files of the small project. -/
def smallCalm : Turn := ⟨id, Project.smallTranslator, id, id⟩

/-- A turn in which the source file of the small project is taken away before the tick. -/
def smallRemoval : Turn :=
  ⟨fun files => (files.remove "/p/src/app.ts").toOption.getD files, Project.smallTranslator, id, id⟩

/-- The small project after a calm turn. -/
def smallCalmed : Session × Watch :=
  (runOn (Watch.turn Project.small (some "dist") smallCalm) smallBegun.1 smallBegun.2).2

/-- The small project is watched. -/
theorem fares_smallBegun : Fares Project.small (some "dist") (Project.smallStart []).files
    (changed Project.small (Project.smallStart []) (Watch.start (Console.start false false)))
    smallBegun.1 smallBegun.2 := by
  refine .begun Project.start_smallStart ?_
  unfold smallBegun
  exact runOn_eq_mk (by decide +kernel)

theorem fares_smallCalmed : ∃ fed, Fares Project.small (some "dist")
    (Project.smallStart []).files fed smallCalmed.1 smallCalmed.2 := by
  refine ⟨_, .turned fares_smallBegun (?_ : runOn (Watch.turn _ _ smallCalm) _ _ = _)⟩
  unfold smallCalmed
  exact runOn_eq_mk (by decide +kernel)

/-- Once its phrase is translated, the source file of the small project may go. -/
theorem outcome_small_of_turn :
    ¬Misses Project.small smallRemoval smallCalmed.1 smallCalmed.2 "src/app.ts"
      ∧ ∃ looked watchLooked flush flushed feedAfter,
        Flushes Project.small smallRemoval smallCalmed.1 smallCalmed.2 looked watchLooked flush
            flushed
          ∧ Survives Project.small smallRemoval smallCalmed.1 smallCalmed.2 looked flushed
            feedAfter := by
  obtain ⟨fed, hfares⟩ := fares_smallCalmed
  obtain ⟨hmisses, looked, watchLooked, flush, flushed, hflushes, hsurvives⟩ :=
    outcome_of_turn hfares (runOn_eq_mk (by decide +kernel) :
      runOn (Watch.turn Project.small (some "dist") smallRemoval) smallCalmed.1 smallCalmed.2
        = (.ok (), _, _))
  exact ⟨hmisses "src/app.ts", looked, watchLooked, flush, flushed, _, hflushes, hsurvives⟩

/-! ## A file with pending phrases -/

/-- The small project after a tick that its source file did not live to see. -/
def smallEnded : Session × Watch :=
  (runOn (tick Project.small Project.smallTranslator (some "dist"))
    (smallRemoval.edited smallBegun.1) smallBegun.2).2

theorem runOn_tick_smallBegun :
    runOn (tick Project.small Project.smallTranslator (some "dist"))
        (smallRemoval.edited smallBegun.1) smallBegun.2
      = (.error (.file "/p/src/app.ts" .notFound), smallEnded.1, smallEnded.2) := by
  unfold smallEnded
  exact runOn_eq_mk (by decide +kernel)

/-- **A file that was taken away with phrases pending ends a watch**, though it was fed before and
nothing but this file was touched. -/
theorem not_survives_of_removed :
    ¬∀ (project : Project) (outDirectory? : Option String) (files : FileTree) (fed : List String)
      (before after : Session) (watch watchAfter : Watch) (translator : Translator)
      (edited : FileTree) (file : String) (fault : FileFault),
      project.settings.fault? = none → Fares project outDirectory? files fed before watch →
      file ∈ fed → before.files.remove (project.scope.resolve file) = .ok edited →
      runOn (tick project translator outDirectory?) { before with files := edited } watch
        ≠ (.error (.file (project.scope.resolve file) fault), after, watchAfter) := by
  intro hall
  have hvalid : Project.small.settings.fault? = none := by decide +kernel
  have hfed : "src/app.ts" ∈ changed Project.small (Project.smallStart [])
      (Watch.start (Console.start false false)) := by decide +kernel
  have hpath : Project.small.scope.resolve "src/app.ts" = "/p/src/app.ts" := by decide +kernel
  have hremoved : smallBegun.1.files.remove "/p/src/app.ts"
      = .ok (smallRemoval.edit smallBegun.1.files) := by decide +kernel
  have hsurvives := hall Project.small (some "dist") _ _ smallBegun.1 smallEnded.1 smallBegun.2
    smallEnded.2 Project.smallTranslator (smallRemoval.edit smallBegun.1.files) "src/app.ts"
    .notFound hvalid fares_smallBegun hfed
  rw [hpath] at hsurvives
  exact hsurvives hremoved runOn_tick_smallBegun

end Watch

end Phrasebook
