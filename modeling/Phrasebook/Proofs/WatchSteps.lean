import Phrasebook.Command.Watch
import Phrasebook.Proofs.Feeding
import Phrasebook.Proofs.FlushedOutputs
import Phrasebook.Proofs.WrittenOutputs

/-!
# Steps of a watch

What a successful pass of a watch is made of. First it looks around: it looks at the stamps of all
source files and feeds those with a new one. On a tick it flushes then and feeds the affected files
again. At last it writes outputs.

Results:
* `Watch.get?_lookAt`, `Watch.mem_lookAt`: the stamps after a look, and the files with a new one.
* `Watch.looksAround_of_lookAround`, `Watch.writes_of_writeTouched`: the parts of a pass.
* `Watch.ticks_of_tick`: a successful tick has a successful flush.
* `Watch.parts_of_tickWith`, `Watch.exists_of_afterFlush_error`: where any other tick fails.
-/

namespace Phrasebook

open HostAction Desk

namespace Watch

variable {α : Type} {project : Project} {translator : Translator} {outDirectory? : Option String}
  {before after : Session} {watch watchAfter : Watch}

/-! ## The desk of a watch -/

/-- Work at the desk leaves what the watch keeps beside it alone. -/
theorem runOn_atDesk (action : HostAction Desk α) (session : Session) (watch : Watch) :
    runOn (atDesk action) session watch
      = ((runOn action session watch.toDesk).1, (runOn action session watch.toDesk).2.1,
        { watch with toDesk := (runOn action session watch.toDesk).2.2 }) := by
  unfold atDesk
  rw [runOn_bind_of_runOn
    (show runOn get session watch = (.ok (session, watch), session, watch) from rfl)]
  dsimp only
  rcases action.runOn session watch.toDesk with ⟨found, last, desk⟩
  cases found <;> rfl

theorem runOn_atDesk_eq_ok {action : HostAction Desk α} {value : α}
    (h : runOn (atDesk action) before watch = (.ok value, after, watchAfter)) :
    ∃ desk, runOn action before watch.toDesk = (.ok value, after, desk)
      ∧ watchAfter = { watch with toDesk := desk } := by
  rw [runOn_atDesk, Prod.mk.injEq, Prod.mk.injEq] at h
  obtain ⟨hvalue, rfl, rfl⟩ := h
  exact ⟨_, Prod.ext hvalue rfl, rfl⟩

theorem exists_of_runOn_atDesk_error {action : HostAction Desk α} {problem : Problem}
    (h : runOn (atDesk action) before watch = (.error problem, after, watchAfter)) :
    ∃ desk, runOn action before watch.toDesk = (.error problem, after, desk) := by
  rw [runOn_atDesk, Prod.mk.injEq, Prod.mk.injEq] at h
  obtain ⟨hproblem, rfl, -⟩ := h
  exact ⟨_, Prod.ext hproblem rfl⟩

theorem runOn_atDesk_keep (change : Desk → Desk) (session : Session) (watch : Watch) :
    runOn (atDesk (keep change)) session watch
      = (.ok (), session, { watch with toDesk := change watch.toDesk }) := rfl

theorem runOn_touch (files : List String) (session : Session) (watch : Watch) :
    runOn (touch files) session watch
      = (.ok (), session, { watch with touched := files.foldl TextSet.add watch.touched }) := rfl

/-! ## Looking at stamps -/

/-- A look at one more file. -/
def lookAtOne (scope : SourceScope) (tree : FileTree) (known : Dictionary Nat)
    (seen : List String × Dictionary Nat) (file : String) : List String × Dictionary Nat :=
  match tree.stamp? (scope.resolve file) with
  | none => seen
  | some stamp =>
    (if known.get? file = some stamp then seen.1 else seen.1 ++ [file], seen.2.insert file stamp)

theorem lookAt_eq_foldl (scope : SourceScope) (tree : FileTree) (known : Dictionary Nat)
    (files : List String) :
    lookAt scope tree known files
      = files.foldl (lookAtOne scope tree known)
          ([], known.filter fun file _ => files.contains file) := by
  unfold lookAt
  congr 1

variable {scope : SourceScope} {tree : FileTree} {known : Dictionary Nat} {file : String}

theorem get?_foldl_lookAtOne (files : List String) (seen : List String × Dictionary Nat) :
    (files.foldl (lookAtOne scope tree known) seen).2.get? file
      = if file ∈ files then (tree.stamp? (scope.resolve file)).or (seen.2.get? file)
        else seen.2.get? file := by
  induction files generalizing seen with
  | nil => rfl
  | cons first rest ih =>
    rw [List.foldl_cons, ih]
    unfold lookAtOne
    by_cases hsame : first = file
    · subst hsame
      cases tree.stamp? (scope.resolve first) <;> simp [Dictionary.get?_insert]
    · cases tree.stamp? (scope.resolve first) <;>
        simp [Dictionary.get?_insert, hsame, Ne.symm hsame]

theorem mem_foldl_lookAtOne (files : List String) (seen : List String × Dictionary Nat) :
    file ∈ (files.foldl (lookAtOne scope tree known) seen).1
      ↔ file ∈ seen.1 ∨ file ∈ files
        ∧ ∃ stamp, tree.stamp? (scope.resolve file) = some stamp
          ∧ known.get? file ≠ some stamp := by
  induction files generalizing seen with
  | nil => simp
  | cons first rest ih =>
    rw [List.foldl_cons, ih]
    unfold lookAtOne
    by_cases hsame : file = first
    · subst hsame
      cases tree.stamp? (scope.resolve file) with
      | none => simp
      | some stamp => by_cases hknown : known.get? file = some stamp <;> simp [hknown]
    · cases tree.stamp? (scope.resolve first) with
      | none => simp [hsame]
      | some stamp => by_cases hknown : known.get? first = some stamp <;> simp [hknown, hsame]

/-- **The stamps after a look** are those that the source files have now. -/
theorem get?_lookAt (files : List String) :
    (lookAt scope tree known files).2.get? file
      = if file ∈ files then (tree.stamp? (scope.resolve file)).or (known.get? file) else none := by
  have hfilter : (known.get? file).filter (fun _ => files.contains file)
      = if file ∈ files then known.get? file else none := by
    cases known.get? file <;> simp [Option.filter_some]
  rw [lookAt_eq_foldl, get?_foldl_lookAtOne, Dictionary.get?_filter, hfilter]
  split <;> rfl

/-- **The files with a new stamp.** -/
theorem mem_lookAt {files : List String} :
    file ∈ (lookAt scope tree known files).1
      ↔ file ∈ files ∧ ∃ stamp, tree.stamp? (scope.resolve file) = some stamp
        ∧ known.get? file ≠ some stamp := by
  rw [lookAt_eq_foldl, mem_foldl_lookAtOne]
  simp

/-! ## The parts of a pass -/

/-- What looking around comes to: the files with a new stamp are fed. -/
structure LooksAround (project : Project) (before : Session) (watch : Watch) (after : Session)
    (watchAfter : Watch) : Prop where
  stamps : watchAfter.stamps
    = (lookAt project.scope before.files watch.stamps (project.searched before.files)).2
  fed : ∃ looked, looked.Agrees before ∧ project.FedAll
    (lookAt project.scope before.files watch.stamps (project.searched before.files)).1 looked
    (watch.feed.retain fun file => before.files.contains (project.scope.resolve file))
    after watchAfter.feed

/-- Looking for changed files cannot fail. -/
theorem runOn_changedFiles (project : Project) (session : Session) (watch : Watch) :
    runOn (changedFiles project) session watch
      = (.ok (lookAt project.scope session.files watch.stamps (project.searched session.files)).1,
        { session with notices := [] },
        ⟨⟨watch.console.notice (session.notices ++ project.scope.warnings session.files),
            watch.feed⟩,
          (lookAt project.scope session.files watch.stamps (project.searched session.files)).2,
          watch.touched⟩) := by
  unfold changedFiles
  rw [runOn_bind_of_runOn (runOn_atDesk _ _ _), runOn_work]
  rfl

/-- Looking around feeds the changed files, once the outputs of files that are gone are dropped. -/
theorem runOn_lookAround (project : Project) (session : Session) (watch : Watch) :
    runOn (lookAround project) session watch
      = runOn (do
          atDesk (feedFiles project .development
            (lookAt project.scope session.files watch.stamps (project.searched session.files)).1)
          touch (lookAt project.scope session.files watch.stamps
            (project.searched session.files)).1)
        { session with notices := [] }
        ⟨⟨watch.console.notice (session.notices ++ project.scope.warnings session.files),
            watch.feed.retain fun file => session.files.contains (project.scope.resolve file)⟩,
          (lookAt project.scope session.files watch.stamps (project.searched session.files)).2,
          watch.touched⟩ := by
  unfold lookAround
  rw [runOn_bind_of_runOn (runOn_changedFiles _ _ _)]
  rw [runOn_bind_of_runOn (runOn_session _ _), runOn_bind_of_runOn (runOn_atDesk_keep _ _ _)]

theorem looksAround_of_lookAround
    (h : runOn (lookAround project) before watch = (.ok (), after, watchAfter)) :
    LooksAround project before watch after watchAfter := by
  rw [runOn_lookAround] at h
  obtain ⟨_, fed, watchFed, hdesk, htouch⟩ := exists_of_runOn_bind h
  obtain ⟨deskFed, hfeed, rfl⟩ := runOn_atDesk_eq_ok hdesk
  rw [runOn_touch] at htouch
  cases htouch
  exact ⟨rfl, { before with notices := [] }, ⟨rfl, rfl, rfl⟩, Project.fedAll_of_feedFiles hfeed⟩

/-- What writing comes to: some outputs may have been written. -/
inductive Writes (outDirectory? : Option String) (before : Session) (feed : Feed) : Session → Prop
  | nothing : Writes outDirectory? before feed before
  | outputs {directory : String} {outputs : List (String × Rewriting)} {desk deskAfter : Desk}
      {after : Session} (hdirectory : outDirectory? = some directory)
      (hsubset : outputs ⊆ feed.outputs.toList)
      (hwrite : runOn (writeOutputs directory outputs) before desk = (.ok (), after, deskAfter)) :
      Writes outDirectory? before feed after

theorem writes_of_writeTouched
    (h : runOn (writeTouched outDirectory?) before watch = (.ok (), after, watchAfter)) :
    watchAfter.feed = watch.feed ∧ watchAfter.stamps = watch.stamps
      ∧ Writes outDirectory? before watch.feed after := by
  unfold writeTouched at h
  rw [runOn_bind_of_runOn (runOn_kept _ _)] at h
  dsimp only at h
  rw [runOn_bind_of_runOn (runOn_keep _ _ _)] at h
  split at h
  · rw [runOn_bind_of_runOn (runOn_atDesk _ _ _)] at h
    cases outDirectory? with
    | none =>
      cases h
      exact ⟨rfl, rfl, .nothing⟩
    | some directory =>
      dsimp only at h
      obtain ⟨_, written, watchWritten, hwrite, htell⟩ := exists_of_runOn_bind h
      obtain ⟨desk, houtputs, rfl⟩ := runOn_atDesk_eq_ok hwrite
      have hdesk := (eq_of_writeOutputs houtputs).2.1
      cases htell
      refine ⟨?_, rfl, .outputs rfl (List.filter_subset_self _) houtputs⟩
      show desk.feed = watch.feed
      rw [hdesk]
      rfl
  · cases h
    exact ⟨rfl, rfl, .nothing⟩

/-- What a tick comes to: looking around, a flush, the affected files again, and writing. -/
inductive Ticks (project : Project) (translator : Translator) (outDirectory? : Option String)
    (before : Session) (watch : Watch) (after : Session) (watchAfter : Watch) : Prop
  | intro {woken looked flushed told fed written : Session} {watchLooked : Watch} {flush : Flush}
      (hwoken : woken.Agrees before)
      (hlook : LooksAround project woken watch looked watchLooked)
      (hflush : (project.flush translator).runOn looked = (.ok flush, flushed))
      (htold : told.Agrees flushed)
      (hfed : project.FedAll flush.affected.keys told watchLooked.feed fed watchAfter.feed)
      (hwrite : Writes outDirectory? fed watchAfter.feed written)
      (hafter : after.Agrees written) (hstamps : watchAfter.stamps = watchLooked.stamps) :
      Ticks project translator outDirectory? before watch after watchAfter

/-- What follows a flush, once it is told of. -/
theorem runOn_afterFlush (flush : Flush) (session : Session) (watch : Watch) :
    runOn ((host project outDirectory?).afterFlush flush) session watch
      = runOn (do
          atDesk (feedFiles project .development flush.affected.keys)
          touch flush.affected.keys
          writeTouched outDirectory?)
        { session with notices := [] }
        { watch with
          console := (watch.console.notice session.notices).tell fun report => report.flush flush } := by
  unfold host
  dsimp only
  have hnotices : runOn (atDesk tellNotices) session watch
      = (.ok (), { session with notices := [] },
        { watch with console := watch.console.notice session.notices }) := rfl
  rw [runOn_bind_of_runOn hnotices, show tell _ = keep _ from rfl,
    runOn_bind_of_runOn (runOn_atDesk_keep _ _ _)]

/-- What follows a flush on a tick. -/
theorem writes_of_afterFlush {flush : Flush}
    (h : runOn ((host project outDirectory?).afterFlush flush) before watch
      = (.ok (), after, watchAfter)) :
    ∃ told fed, told.Agrees before
      ∧ project.FedAll flush.affected.keys told watch.feed fed watchAfter.feed
      ∧ Writes outDirectory? fed watchAfter.feed after ∧ watchAfter.stamps = watch.stamps := by
  rw [runOn_afterFlush] at h
  obtain ⟨_, fed, watchFed, hdesk, hwrite⟩ := exists_of_runOn_bind h
  obtain ⟨deskFed, hfeed, rfl⟩ := runOn_atDesk_eq_ok hdesk
  rw [runOn_bind_of_runOn (runOn_touch _ _ _)] at hwrite
  obtain ⟨hfeedAfter, hstamps, hwrites⟩ := writes_of_writeTouched hwrite
  have hfed := Project.fedAll_of_feedFiles hfeed
  rw [hfeedAfter]
  exact ⟨{ before with notices := [] }, fed, ⟨rfl, rfl, rfl⟩, hfed, hwrites, hstamps⟩

/-- One tick, with any flush. -/
def tickWith (project : Project) (flush : SessionAction Flush) (outDirectory? : Option String) :
    HostAction Watch Unit := do
  let found ← attempt (Schedule.tick (host project outDirectory?) flush)
  atDesk tellNotices
  orThrow found

/-- The session when the tick fires. -/
def woken (session : Session) : Session := (SessionAction.awaitTick.runOn session).2

theorem agrees_woken (session : Session) : (woken session).Agrees session := ⟨rfl, rfl, rfl⟩

/-- **How far a tick goes**: it ends when looking around fails, or the flush, or else as what follows
the flush does. -/
inductive Parts (project : Project) (flush : SessionAction Flush) (outDirectory? : Option String)
    (before : Session) (watch : Watch) : Except Problem Unit → Session → Watch → Prop
  | looking {problem : Problem} {looked after : Session} {watchLooked watchAfter : Watch}
      (hlook : runOn (lookAround project) (woken before) watch
        = (.error problem, looked, watchLooked)) :
      Parts project flush outDirectory? before watch (.error problem) after watchAfter
  | flushing {problem : Problem} {looked flushed after : Session} {watchLooked watchAfter : Watch}
      (hlook : runOn (lookAround project) (woken before) watch = (.ok (), looked, watchLooked))
      (hflush : flush.runOn looked = (.error problem, flushed)) :
      Parts project flush outDirectory? before watch (.error problem) after watchAfter
  | following {found : Except Problem Unit} {report : Flush} {looked flushed last after : Session}
      {watchLooked watchLast watchAfter : Watch}
      (hlook : runOn (lookAround project) (woken before) watch = (.ok (), looked, watchLooked))
      (hflush : flush.runOn looked = (.ok report, flushed))
      (hfollow : runOn ((host project outDirectory?).afterFlush report) flushed watchLooked
        = (found, last, watchLast))
      (hagrees : after.Agrees last) (hfeed : watchAfter.feed = watchLast.feed)
      (hstamps : watchAfter.stamps = watchLast.stamps) :
      Parts project flush outDirectory? before watch found after watchAfter

theorem parts_of_tickWith {flush : SessionAction Flush} {found : Except Problem Unit}
    (hfatal : ∀ {session flushed problem}, flush.runOn session = (.error problem, flushed) →
      problem.isFatal = true)
    (h : runOn (tickWith project flush outDirectory?) before watch = (found, after, watchAfter)) :
    Parts project flush outDirectory? before watch found after watchAfter := by
  unfold tickWith at h
  rw [runOn_bind_of_runOn (runOn_attempt _ _ _)] at h
  rcases htick : runOn (Schedule.tick (host project outDirectory?) flush) before watch with
    ⟨result, last, watchLast⟩
  have htold : runOn (atDesk tellNotices) last watchLast
      = (.ok (), { last with notices := [] },
        { watchLast with console := watchLast.console.notice last.notices }) := rfl
  rw [htick, runOn_bind_of_runOn htold, runOn_orThrow] at h
  cases h
  unfold Schedule.tick at htick
  have hwoken : runOn (onSession SessionAction.awaitTick) before watch
      = (.ok (), woken before, watch) := rfl
  rw [runOn_bind_of_runOn hwoken] at htick
  unfold Schedule.flushBetween at htick
  rcases hlook : runOn (lookAround project) (woken before) watch with ⟨seen, looked, watchLooked⟩
  cases seen with
  | error problem =>
    rw [runOn_bind_of_runOn_error
      (show runOn (host project outDirectory?).beforeFlush (woken before) watch = _ from hlook)]
      at htick
    cases htick
    exact .looking hlook
  | ok value =>
    rw [runOn_bind_of_runOn
        (show runOn (host project outDirectory?).beforeFlush (woken before) watch = _ from hlook),
      runOn_bind_of_runOn (runOn_attempt _ _ _), runOn_onSession] at htick
    rcases hflush : flush.runOn looked with ⟨flushFound, flushed⟩
    rw [hflush] at htick
    cases flushFound with
    | error problem =>
      dsimp only at htick
      rw [if_pos (hfatal hflush)] at htick
      cases htick
      exact .flushing hlook hflush
    | ok report => exact .following hlook hflush htick ⟨rfl, rfl, rfl⟩ rfl rfl

/-- **A successful tick** has a successful flush, since the problems of flushes are fatal. -/
theorem ticks_of_tick
    (h : runOn (tick project translator outDirectory?) before watch = (.ok (), after, watchAfter)) :
    Ticks project translator outDirectory? before watch after watchAfter := by
  have htick : runOn (tickWith project (project.flush translator) outDirectory?) before watch
      = (.ok (), after, watchAfter) := h
  cases parts_of_tickWith Project.isFatal_of_flush htick with
  | following hlook hflush hfollow hagrees hfeed hstamps =>
    obtain ⟨told, fed, htold, hfed, hwrites, hkept⟩ := writes_of_afterFlush hfollow
    rw [← hfeed] at hfed hwrites
    exact .intro (agrees_woken before) (looksAround_of_lookAround hlook) hflush htold hfed hwrites
      hagrees (hstamps.trans hkept)

/-! ## What keeps a pass from its end -/

/-- A feeding ends with a problem at one of its files. -/
theorem exists_refuses_of_feedFiles {files : List String} {problem : Problem}
    (h : runOn (atDesk (feedFiles project .development files)) before watch
      = (.error problem, after, watchAfter)) :
    ∃ file session, file ∈ files ∧ session.files = before.files
      ∧ project.Refuses file session problem := by
  obtain ⟨desk, hfeed⟩ := exists_of_runOn_atDesk_error h
  obtain ⟨done, file, rest, middle, feed, rfl, hfed, hrefuses⟩ :=
    Project.exists_refuses_of_feedFiles hfeed
  exact ⟨file, middle, List.mem_append_right _ List.mem_cons_self, hfed.requested.files, hrefuses⟩

theorem exists_refuses_of_lookAround {problem : Problem}
    (h : runOn (lookAround project) before watch = (.error problem, after, watchAfter)) :
    ∃ file session, file ∈ (lookAt project.scope before.files watch.stamps
        (project.searched before.files)).1
      ∧ session.files = before.files ∧ project.Refuses file session problem := by
  rw [runOn_lookAround] at h
  rcases runOn_bind_eq_error h with hfeed | ⟨_, _, _, _, htouch⟩
  · obtain ⟨file, fed, hmem, hfiles, hrefuses⟩ := exists_refuses_of_feedFiles hfeed
    exact ⟨file, fed, hmem, hfiles, hrefuses⟩
  · cases htouch

/-- What keeps outputs from being written is one that cannot be written. -/
theorem exists_of_writeTouched_error {problem : Problem}
    (h : runOn (writeTouched outDirectory?) before watch = (.error problem, after, watchAfter)) :
    ∃ directory outputs desk found, outDirectory? = some directory
      ∧ outputs ⊆ watch.feed.outputs.toList
      ∧ runOn (writeOutputs directory outputs) before desk = (.error problem, found) := by
  unfold writeTouched at h
  rw [runOn_bind_of_runOn (runOn_kept _ _)] at h
  dsimp only at h
  rw [runOn_bind_of_runOn (runOn_keep _ _ _)] at h
  split at h
  · rw [runOn_bind_of_runOn (runOn_atDesk _ _ _)] at h
    cases outDirectory? with
    | none => cases h
    | some directory =>
      dsimp only at h
      rcases runOn_bind_eq_error h with hwrite | ⟨_, _, _, _, htell⟩
      · obtain ⟨desk, houtputs⟩ := exists_of_runOn_atDesk_error hwrite
        exact ⟨directory, _, _, _, rfl, List.filter_subset_self _, houtputs⟩
      · cases htell
  · cases h

/-- **What follows a flush fails** where an affected file is fed again, or an output is written. -/
theorem exists_of_afterFlush_error {flush : Flush} {problem : Problem}
    (h : runOn ((host project outDirectory?).afterFlush flush) before watch
      = (.error problem, after, watchAfter)) :
    (∃ file session, file ∈ flush.affected.keys ∧ session.files = before.files
        ∧ project.Refuses file session problem)
      ∨ ∃ told fed feed, told.Agrees before
        ∧ project.FedAll flush.affected.keys told watch.feed fed feed
        ∧ ∃ directory outputs desk found, outDirectory? = some directory
          ∧ outputs ⊆ feed.outputs.toList
          ∧ runOn (writeOutputs directory outputs) fed desk = (.error problem, found) := by
  rw [runOn_afterFlush] at h
  rcases runOn_bind_eq_error h with hfeed | ⟨_, fed, watchFed, hdesk, hwrite⟩
  · obtain ⟨file, fed, hmem, hfiles, hrefuses⟩ := exists_refuses_of_feedFiles hfeed
    exact .inl ⟨file, fed, hmem, hfiles, hrefuses⟩
  · obtain ⟨deskFed, hfeed, rfl⟩ := runOn_atDesk_eq_ok hdesk
    rw [runOn_bind_of_runOn (runOn_touch _ _ _)] at hwrite
    have hfed := Project.fedAll_of_feedFiles hfeed
    exact .inr ⟨{ before with notices := [] }, fed, deskFed.feed, ⟨rfl, rfl, rfl⟩, hfed,
      exists_of_writeTouched_error hwrite⟩

end Watch

end Phrasebook
