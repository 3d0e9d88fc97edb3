import Phrasebook.Proofs.HostAction
import Phrasebook.Proofs.Rewriting
import Phrasebook.Proofs.SourceFiles

/-!
# Fed files

A file that is fed is read and rewritten by the current index. Its output replaces an older one, and
its phrases without a key become pending; a file that is no script loses its output. So what was fed
last is up to date, and feeding one file leaves the outputs of the others as they are.

Results:
* `Project.runOn_feedFile`: feeding a file takes in what rewriting it comes to.
* `Project.fedAll_of_feedFiles`: a successful feeding feeds one file after the other.
* `Project.FedAll.requested`, `Project.FedAll.files_subset`: what becomes pending.
* `Project.FedAll.upToDate`: after a feeding, every output is up to date that was fed or was up to
  date before.
-/

namespace Phrasebook

namespace Pending

variable {pending : Pending}

theorem mem_files_add {phrase ns added file : String} :
    file ∈ (pending.add phrase ns added).files.keys ↔ file ∈ pending.files.keys ∨ file = added := by
  unfold add TextSet.add
  rw [Dictionary.mem_keys, Dictionary.mem_keys, Dictionary.get?_insert]
  by_cases hsame : added = file
  · simp [hsame]
  · simp [hsame, Ne.symm hsame]

theorem mem_files_addUnresolved {unresolved : List Unresolved} {file : String} :
    file ∈ (pending.addUnresolved unresolved).files.keys
      ↔ file ∈ pending.files.keys ∨ ∃ request ∈ unresolved, file = request.location.file := by
  unfold addUnresolved
  induction unresolved generalizing pending with
  | nil => simp
  | cons request rest ih =>
    rw [List.foldl_cons, ih, mem_files_add, or_assoc]
    simp only [List.mem_cons, exists_eq_or_imp]

end Pending

namespace Feed

variable {feed : Feed} {file other : String}

theorem get?_outputs_accept (rewriting : Rewriting) :
    (feed.accept file rewriting).outputs.get? other
      = if file = other then some rewriting else feed.outputs.get? other :=
  Dictionary.get?_insert _ _ _ _

theorem get?_outputs_reject (message : String) :
    (feed.reject file message).outputs.get? other
      = if file = other then none else feed.outputs.get? other :=
  Dictionary.get?_alter _ _ _ _

theorem get?_outputs_retain (keep : String → Bool) :
    (feed.retain keep).outputs.get? file = if keep file then feed.outputs.get? file else none := by
  unfold retain
  rw [Dictionary.get?_filter]
  cases feed.outputs.get? file <;> simp [Option.filter_some]

/-- The file has an output, or it is noted why it has none. -/
def Covers (feed : Feed) (file : String) : Prop :=
  (feed.outputs.get? file).isSome ∨ ∃ failure ∈ feed.failures, failure.file = file

theorem covers_accept {rewriting : Rewriting} (h : other = file ∨ feed.Covers other) :
    (feed.accept file rewriting).Covers other := by
  unfold Covers
  rw [get?_outputs_accept]
  by_cases hsame : file = other
  · simp [hsame]
  · rw [if_neg hsame]
    refine (h.resolve_left (Ne.symm hsame)).imp_right ?_
    rintro ⟨failure, hmem, rfl⟩
    exact ⟨failure, List.mem_filter.2 ⟨hmem, bne_iff_ne.2 (Ne.symm hsame)⟩, rfl⟩

theorem covers_reject {message : String} (h : other = file ∨ feed.Covers other) :
    (feed.reject file message).Covers other := by
  unfold Covers
  rw [get?_outputs_reject]
  by_cases hsame : file = other
  · exact .inr ⟨⟨file, message⟩, List.mem_append_right _ List.mem_cons_self, hsame⟩
  · rw [if_neg hsame]
    refine (h.resolve_left (Ne.symm hsame)).imp_right ?_
    rintro ⟨failure, hmem, rfl⟩
    exact ⟨failure, List.mem_append_left _
      (List.mem_filter.2 ⟨hmem, bne_iff_ne.2 (Ne.symm hsame)⟩), rfl⟩

/-- No file failed, and no output has a phrase without a key. -/
structure Done (feed : Feed) : Prop where
  failures : feed.failures = []
  unresolved : ∀ file rewriting, feed.outputs.get? file = some rewriting →
    rewriting.unresolved = []

theorem done_iff : feed.Done ↔ feed.failures = [] ∧ feed.unresolved = [] := by
  unfold Feed.unresolved
  rw [List.flatMap_eq_nil_iff]
  constructor
  · rintro ⟨hfailures, hunresolved⟩
    refine ⟨hfailures, fun rewriting hmem => ?_⟩
    obtain ⟨file, hfile⟩ := Dictionary.mem_values.1 hmem
    exact hunresolved file rewriting hfile
  · rintro ⟨hfailures, hunresolved⟩
    exact ⟨hfailures, fun file rewriting hfile =>
      hunresolved rewriting (Dictionary.mem_values.2 ⟨file, hfile⟩)⟩

theorem done_empty : empty.Done := ⟨rfl, nofun⟩

theorem Done.accept (h : feed.Done) {rewriting : Rewriting} (hnothing : rewriting.unresolved = []) :
    (feed.accept file rewriting).Done where
  failures := by
    show feed.failures.filter _ = []
    rw [h.failures]
    rfl
  unresolved := by
    intro other found hfound
    rw [get?_outputs_accept] at hfound
    split at hfound
    · cases hfound
      exact hnothing
    · exact h.unresolved other found hfound

end Feed

/-! ## Source files -/

namespace Project

/-- The rewriting of a source file, or why there is none. -/
def rewriteFile (project : Project) (files : FileTree) (index : PhraseIndex) (file : String) :
    Except Problem Rewriting :=
  match files.readText (project.scope.resolve file) with
  | .error fault => .error (.file (project.scope.resolve file) fault)
  | .ok code => project.rules.rewrite index ⟨file, code⟩

variable {project : Project} {files : FileTree} {index : PhraseIndex} {file : String}

theorem rewriteFile_of_readText {code : String}
    (h : files.readText (project.scope.resolve file) = .ok code) :
    project.rewriteFile files index file = project.rules.rewrite index ⟨file, code⟩ := by
  unfold rewriteFile
  rw [h]

theorem rewriteFile_of_unread {fault : FileFault}
    (h : files.readText (project.scope.resolve file) = .error fault) :
    project.rewriteFile files index file
      = .error (.file (project.scope.resolve file) fault) := by
  unfold rewriteFile
  rw [h]

theorem rewriteFile_of_reads {unit : SourceUnit} (h : project.scope.Reads files unit) :
    project.rewriteFile files index unit.path = project.rules.rewrite index unit :=
  rewriteFile_of_readText h

theorem rewriteFile_eq_ok_iff {rewriting : Rewriting} :
    project.rewriteFile files index file = .ok rewriting
      ↔ ∃ unit, unit.path = file ∧ project.scope.Reads files unit
        ∧ project.rules.rewrite index unit = .ok rewriting := by
  constructor
  · intro h
    unfold rewriteFile at h
    split at h
    · cases h
    · next code hread => exact ⟨⟨file, code⟩, rfl, hread, h⟩
  · rintro ⟨unit, rfl, hread, hrewrite⟩
    rw [rewriteFile_of_reads hread, hrewrite]

end Project

namespace Project

open HostAction Desk SessionAction

variable {project : Project} {before after : Session} {feed feedAfter : Feed}
  {file other : String} {files : List String}

/-! ## One file -/

/-- Rewriting a unit makes what it leaves unresolved pending. -/
theorem runOn_rewriteCollecting (project : Project) (unit : SourceUnit) (session : Session) :
    (project.rewriteCollecting .development unit).runOn session
      = match project.rules.rewrite session.index unit with
        | .ok rewriting =>
          (.ok rewriting,
            { session with pending := session.pending.addUnresolved rewriting.unresolved })
        | .error problem => (.error problem, session) := by
  unfold rewriteCollecting
  rw [SessionAction.runOn_bind_of_runOn (SessionAction.runOn_session session)]
  cases project.rules.rewrite session.index unit <;> rfl

/-- In production a rewriting makes nothing pending. -/
theorem runOn_rewriteCollecting_production (project : Project) (unit : SourceUnit)
    (session : Session) :
    (project.rewriteCollecting .production unit).runOn session
      = (project.rules.rewrite session.index unit, session) := by
  unfold rewriteCollecting
  rw [SessionAction.runOn_bind_of_runOn (SessionAction.runOn_session session)]
  cases project.rules.rewrite session.index unit <;> rfl

/-- **What feeding a file comes to.** -/
inductive Fed (project : Project) (file : String) (before : Session) (feed : Feed) :
    Session → Feed → Prop
  /-- The file was rewritten. -/
  | accepted {unit : SourceUnit} {rewriting : Rewriting} (hpath : unit.path = file)
      (hread : project.scope.Reads before.files unit)
      (hrewrite : project.rules.rewrite before.index unit = .ok rewriting) :
      Fed project file before feed
        { before with pending := before.pending.addUnresolved rewriting.unresolved }
        (feed.accept file rewriting)
  /-- The file is no script. -/
  | rejected {unit : SourceUnit} {path : String} {detail? : Option String}
      (hpath : unit.path = file) (hread : project.scope.Reads before.files unit)
      (hrewrite : project.rules.rewrite before.index unit = .error (.script path detail?)) :
      Fed project file before feed before
        (feed.reject file (Problem.script path detail?).message)

/-- Reading a source file in a session leaves the session as it is. -/
theorem runOn_onFiles_readUnit_eq_ok_iff {unit : SourceUnit} :
    (onFiles (project.scope.readUnit file)).runOn before = (.ok unit, after)
      ↔ project.scope.Reads before.files unit ∧ unit.path = file ∧ after = before := by
  rw [SessionAction.runOn_onFiles]
  constructor
  · intro h
    rw [Prod.mk.injEq] at h
    obtain ⟨hunit, rfl⟩ := h
    obtain ⟨hread, hpath, hfiles⟩ :=
      SourceScope.runOn_readUnit_eq_ok_iff.1 (Prod.ext hunit rfl)
    have hsame : { before with files := before.files } = before := rfl
    exact ⟨hread, hpath, (congrArg (fun files => { before with files }) hfiles).trans hsame⟩
  · rintro ⟨hread, hpath, rfl⟩
    rw [SourceScope.runOn_readUnit_eq_ok_iff.2 ⟨hread, hpath, rfl⟩]

/-- Feeding a file that cannot be read leaves everything as it was. -/
theorem runOn_feedFile_of_unread {mode : BuildMode} {session : Session} {desk : Desk}
    {fault : FileFault}
    (hread : session.files.readText (project.scope.resolve file) = .error fault) :
    runOn (feedFile project mode file) session desk
      = (.error (.file (project.scope.resolve file) fault), session, desk) := by
  have hunit : runOn (onSession (onFiles (project.scope.readUnit file))) session desk
      = (.error (.file (project.scope.resolve file) fault), session, desk) := by
    rw [runOn_onSession, SessionAction.runOn_onFiles, SourceScope.runOn_readUnit, hread]
  exact HostAction.runOn_bind_of_runOn_error hunit

/-- **Feeding a file that can be read** takes in what rewriting it comes to. -/
theorem runOn_feedFile {mode : BuildMode} {unit : SourceUnit} {session : Session} {desk : Desk}
    {found : Except Problem Rewriting} (hread : project.scope.Reads session.files unit)
    (hrewrite : (project.rewriteCollecting mode unit).runOn session = (found, after)) :
    runOn (feedFile project mode unit.path) session desk
      = ((match (desk.feed.take unit.path found).2 with
          | some problem => .error problem
          | none => .ok ()),
        after, { desk with feed := (desk.feed.take unit.path found).1 }) := by
  have hunit : runOn (onSession (onFiles (project.scope.readUnit unit.path))) session desk
      = (.ok unit, session, desk) := by
    rw [runOn_onSession, runOn_onFiles_readUnit_eq_ok_iff.2 ⟨hread, rfl, rfl⟩]
  have htried : runOn (attempt (onSession (project.rewriteCollecting mode unit))) session desk
      = (.ok found, after, desk) := by
    rw [runOn_attempt, runOn_onSession, hrewrite]
  unfold feedFile
  rw [HostAction.runOn_bind_of_runOn hunit, HostAction.runOn_bind_of_runOn htried]
  cases found with
  | ok rewriting => rfl
  | error problem => cases problem <;> rfl

/-- Feeding a file that can be read, in development. -/
theorem runOn_feedFile_of_reads {unit : SourceUnit} {session : Session} {desk : Desk}
    (hread : project.scope.Reads session.files unit) :
    runOn (feedFile project .development unit.path) session desk
      = match project.rules.rewrite session.index unit with
        | .ok rewriting =>
          (.ok (),
            { session with pending := session.pending.addUnresolved rewriting.unresolved },
            { desk with feed := desk.feed.accept unit.path rewriting })
        | .error (.script path detail?) =>
          (.ok (), session,
            { desk with feed := desk.feed.reject unit.path (Problem.script path detail?).message })
        | .error problem =>
          (.error problem, session, { desk with feed := desk.feed.withoutFailure unit.path }) := by
  have hrewrite := runOn_rewriteCollecting project unit session
  cases hfound : project.rules.rewrite session.index unit with
  | ok rewriting =>
    rw [hfound] at hrewrite
    exact runOn_feedFile hread hrewrite
  | error problem =>
    rw [hfound] at hrewrite
    rw [runOn_feedFile hread hrewrite]
    cases problem <;> rfl

/-- A successful feeding of one file. -/
theorem fed_of_feedFile {desk deskAfter : Desk}
    (h : runOn (feedFile project .development file) before desk = (.ok (), after, deskAfter)) :
    project.Fed file before desk.feed after deskAfter.feed := by
  have hread := h
  unfold feedFile at hread
  obtain ⟨unit, _, _, hread, -⟩ := HostAction.exists_of_runOn_bind hread
  rw [runOn_onSession, Prod.mk.injEq, Prod.mk.injEq] at hread
  obtain ⟨hreads, rfl, -⟩ := runOn_onFiles_readUnit_eq_ok_iff.1 (Prod.ext hread.1 rfl)
  rw [runOn_feedFile_of_reads hreads] at h
  cases hrewrite : project.rules.rewrite before.index unit with
  | ok rewriting =>
    rw [hrewrite] at h
    cases h
    exact .accepted rfl hreads hrewrite
  | error problem =>
    rw [hrewrite] at h
    cases problem with
    | script path detail? =>
      cases h
      exact .rejected rfl hreads hrewrite
    | _ => cases h

/-- **What keeps a file from being fed**: it cannot be read, or its marker calls are no good. -/
inductive Refuses (project : Project) (file : String) (session : Session) : Problem → Prop
  | unread {fault : FileFault}
      (hread : session.files.readText (project.scope.resolve file) = .error fault) :
      Refuses project file session (.file (project.scope.resolve file) fault)
  | refused {unit : SourceUnit} {problem : Problem} (hpath : unit.path = file)
      (hread : project.scope.Reads session.files unit)
      (hrewrite : project.rules.rewrite session.index unit = .error problem) :
      Refuses project file session problem

/-- Feeding a file that ends with a problem leaves the session as it was. -/
theorem refuses_of_feedFile {desk deskAfter : Desk} {problem : Problem}
    (h : runOn (feedFile project .development file) before desk
      = (.error problem, after, deskAfter)) : project.Refuses file before problem := by
  cases hread : before.files.readText (project.scope.resolve file) with
  | ok code =>
    have hunit : project.scope.Reads before.files ⟨file, code⟩ := hread
    rw [runOn_feedFile_of_reads hunit] at h
    cases hrewrite : project.rules.rewrite before.index ⟨file, code⟩ with
    | ok rewriting =>
      rw [hrewrite] at h
      cases h
    | error found =>
      rw [hrewrite] at h
      cases found with
      | script path detail? => cases h
      | _ =>
        cases h
        exact .refused rfl hunit hrewrite
  | error fault =>
    rw [runOn_feedFile_of_unread hread] at h
    cases h
    exact .unread hread

/-! ## Files one after the other -/

/-- Files that are fed one after the other. -/
inductive FedAll (project : Project) : List String → Session → Feed → Session → Feed → Prop
  | nil {session : Session} {feed : Feed} : FedAll project [] session feed session feed
  | cons {file : String} {rest : List String} {before middle after : Session}
      {feed feedMiddle feedAfter : Feed} (first : project.Fed file before feed middle feedMiddle)
      (more : FedAll project rest middle feedMiddle after feedAfter) :
      FedAll project (file :: rest) before feed after feedAfter

/-- **A successful feeding** feeds one file after the other. -/
theorem fedAll_of_feedFiles {desk deskAfter : Desk}
    (h : runOn (feedFiles project .development files) before desk = (.ok (), after, deskAfter)) :
    project.FedAll files before desk.feed after deskAfter.feed := by
  induction files generalizing before desk with
  | nil =>
    cases h
    exact .nil
  | cons file rest ih =>
    obtain ⟨_, middle, deskMiddle, hfirst, hmore⟩ := HostAction.exists_of_runOn_bind h
    exact .cons (fed_of_feedFile hfirst) (ih hmore)

/-- **A feeding that ends with a problem** does so at one of the files. -/
theorem exists_refuses_of_feedFiles {desk deskAfter : Desk} {problem : Problem}
    (h : runOn (feedFiles project .development files) before desk
      = (.error problem, after, deskAfter)) :
    ∃ done file rest middle feed, files = done ++ file :: rest
      ∧ project.FedAll done before desk.feed middle feed ∧ project.Refuses file middle problem := by
  induction files generalizing before desk with
  | nil => cases h
  | cons file rest ih =>
    rcases HostAction.runOn_bind_eq_error h with hfirst | ⟨_, middle, deskMiddle, hfirst, hmore⟩
    · exact ⟨[], file, rest, before, desk.feed, rfl, .nil, refuses_of_feedFile hfirst⟩
    · obtain ⟨done, last, others, final, feed, rfl, hfed, hrefuses⟩ := ih hmore
      exact ⟨file :: done, last, others, final, feed, rfl, .cons (fed_of_feedFile hfirst) hfed,
        hrefuses⟩

/-- **Files that can be rewritten with nothing unresolved** are fed without a trace in the session,
and leave nothing to do. -/
theorem exists_runOn_feedFiles {session : Session} {desk : Desk}
    (h : ∀ file ∈ files, ∃ unit rewriting, unit.path = file
      ∧ project.scope.Reads session.files unit
      ∧ project.rules.rewrite session.index unit = .ok rewriting ∧ rewriting.unresolved = [])
    (hdone : desk.feed.Done) :
    ∃ feed, runOn (feedFiles project .development files) session desk
        = (.ok (), session, { desk with feed }) ∧ feed.Done := by
  induction files generalizing desk with
  | nil => exact ⟨desk.feed, rfl, hdone⟩
  | cons file rest ih =>
    obtain ⟨unit, rewriting, rfl, hread, hrewrite, hnothing⟩ := h _ List.mem_cons_self
    have hfirst : runOn (feedFile project .development unit.path) session desk
        = (.ok (), session, { desk with feed := desk.feed.accept unit.path rewriting }) := by
      rw [runOn_feedFile_of_reads hread, hrewrite]
      dsimp only
      rw [hnothing]
      rfl
    unfold feedFiles
    rw [HostAction.runOn_bind_of_runOn hfirst]
    exact ih (fun file hmem => h file (List.mem_cons_of_mem _ hmem)) (hdone.accept hnothing)

/-! ## What a feeding changes -/

/-- The marker calls of a unit that can be rewritten are found in its file. -/
theorem finds_of_findKnown {tree : FileTree} {unit : SourceUnit} {calls : List MarkerCall}
    {call : MarkerCall} (hfile : unit.path ∈ files) (hread : project.scope.Reads tree unit)
    (hvendored : project.rules.isVendored unit.path = false)
    (hcalls : project.rules.findKnown unit = .ok calls) (hcall : call ∈ calls) :
    Survey.Finds project.scope project.rules tree files call.namespaceName call.phrase := by
  obtain ⟨hfind, hknown⟩ := MarkerRules.findKnown_eq_ok_iff.1 hcalls
  exact ⟨hknown call hcall, unit.path, hfile, hvendored, calls,
    (SourceScope.callsOf_of_reads _ hread).trans hfind, call, hcall, rfl, rfl⟩

theorem Fed.requested (h : project.Fed file before feed after feedAfter) :
    Requested before after := by
  cases h with
  | accepted hpath hread hrewrite =>
    refine ⟨rfl, rfl, fun {phrase ns} hmem => ?_⟩
    rcases Pending.mem_pairs_addUnresolved.1 hmem with hold | ⟨request, hrequest, rfl, rfl⟩
    · exact .inl hold
    · exact .inr (lookup?_of_mem_unresolved hrewrite hrequest)
  | rejected => exact ⟨rfl, rfl, .inl⟩

/-- **Feeding files makes only phrases without a key pending.** -/
theorem FedAll.requested (h : project.FedAll files before feed after feedAfter) :
    Requested before after := by
  induction h with
  | nil => exact ⟨rfl, rfl, .inl⟩
  | cons hfirst _ ih =>
    have hrequested := hfirst.requested
    refine ⟨ih.files.trans hrequested.files, ih.index.trans hrequested.index, fun hmem => ?_⟩
    rcases ih.pending hmem with hold | hnone
    · exact hrequested.pending hold
    · rw [hrequested.index] at hnone
      exact .inr hnone

/-- **Phrases become pending in fed files only.** -/
theorem FedAll.files_subset (h : project.FedAll files before feed after feedAfter)
    (hmem : other ∈ after.pending.files.keys) :
    other ∈ before.pending.files.keys ∨ other ∈ files := by
  induction h with
  | nil => exact .inl hmem
  | cons hfirst _ ih =>
    rcases ih hmem with hold | hrest
    · cases hfirst with
      | accepted hpath hread hrewrite =>
        rcases Pending.mem_files_addUnresolved.1 hold with hbefore | ⟨request, hrequest, rfl⟩
        · exact .inl hbefore
        · rw [MarkerRules.file_of_mem_unresolved hrewrite hrequest, hpath]
          exact .inr List.mem_cons_self
      | rejected => exact .inl hold
    · exact .inr (List.mem_cons_of_mem _ hrest)

/-- **What becomes pending is found in the fed files.** -/
theorem FedAll.finds_of_mem_pairs (h : project.FedAll files before feed after feedAfter)
    {phrase ns : String} (hmem : (phrase, ns) ∈ after.pending.pairs) :
    (phrase, ns) ∈ before.pending.pairs
      ∨ Survey.Finds project.scope project.rules before.files files ns phrase := by
  induction h with
  | nil => exact .inl hmem
  | cons hfirst _ ih =>
    rcases ih hmem with hold | ⟨hknown, file, hfile, hfound⟩
    · cases hfirst with
      | accepted hpath hread hrewrite =>
        rcases Pending.mem_pairs_addUnresolved.1 hold with hbefore | ⟨request, hrequest, rfl, rfl⟩
        · exact .inl hbefore
        · rcases MarkerRules.rewrite_eq_ok_iff.1 hrewrite with
            ⟨-, rfl⟩ | ⟨hvendored, calls, hcalls, rfl⟩
          · cases hrequest
          · obtain ⟨call, hcall, -, rfl⟩ := MarkerRules.mem_unresolved_rewritingOf.1 hrequest
            subst hpath
            exact .inr (finds_of_findKnown List.mem_cons_self hread hvendored hcalls hcall)
      | rejected => exact .inl hold
    · rw [hfirst.requested.files] at hfound
      exact .inr ⟨hknown, file, List.mem_cons_of_mem _ hfile, hfound⟩

/-- **Every fed file has an output**, or it is noted why it has none. -/
theorem FedAll.covers (h : project.FedAll files before feed after feedAfter)
    (hmem : other ∈ files ∨ feed.Covers other) : feedAfter.Covers other := by
  induction h with
  | nil => exact hmem.resolve_left List.not_mem_nil
  | @cons first rest _ _ _ feed feedMiddle _ hfirst _ ih =>
    have hstep : other = first ∨ feed.Covers other → feedMiddle.Covers other := by
      intro hcovers
      cases hfirst with
      | accepted => exact Feed.covers_accept hcovers
      | rejected => exact Feed.covers_reject hcovers
    rcases hmem with hfed | hold
    · rcases List.mem_cons.1 hfed with hsame | hrest
      · exact ih (.inr (hstep (.inl hsame)))
      · exact ih (.inl hrest)
    · exact ih (.inr (hstep (.inr hold)))

/-- The outputs of files that are not fed stay. -/
theorem FedAll.get?_outputs_of_not_mem (h : project.FedAll files before feed after feedAfter)
    (hmem : other ∉ files) : feedAfter.outputs.get? other = feed.outputs.get? other := by
  induction h with
  | nil => rfl
  | cons hfirst _ ih =>
    obtain ⟨hne, hrest⟩ := List.ne_and_not_mem_of_not_mem_cons hmem
    rw [ih hrest]
    cases hfirst with
    | accepted => rw [Feed.get?_outputs_accept, if_neg (Ne.symm hne)]
    | rejected => rw [Feed.get?_outputs_reject, if_neg (Ne.symm hne)]

/-- Only fed files get an output. -/
theorem FedAll.outputs_subset (h : project.FedAll files before feed after feedAfter)
    (hmem : (feedAfter.outputs.get? other).isSome) :
    (feed.outputs.get? other).isSome ∨ other ∈ files := by
  induction h with
  | nil => exact .inl hmem
  | cons hfirst _ ih =>
    rcases ih hmem with hold | hrest
    · cases hfirst with
      | accepted hpath hread hrewrite =>
        rw [Feed.get?_outputs_accept] at hold
        split at hold
        · next hsame => exact .inr (hsame ▸ List.mem_cons_self)
        · exact .inl hold
      | rejected =>
        rw [Feed.get?_outputs_reject] at hold
        split at hold
        · cases hold
        · exact .inl hold
    · exact .inr (List.mem_cons_of_mem _ hrest)

/-- Every fed file can be read. -/
theorem FedAll.exists_reads (h : project.FedAll files before feed after feedAfter)
    (hmem : file ∈ files) : ∃ unit, unit.path = file ∧ project.scope.Reads before.files unit := by
  induction h with
  | nil => cases hmem
  | cons hfirst _ ih =>
    rcases List.mem_cons.1 hmem with rfl | hrest
    · cases hfirst with
      | accepted hpath hread => exact ⟨_, hpath, hread⟩
      | rejected hpath hread => exact ⟨_, hpath, hread⟩
    · obtain ⟨unit, hpath, hread⟩ := ih hrest
      rw [hfirst.requested.files] at hread
      exact ⟨unit, hpath, hread⟩

/-! ## Outputs that are up to date -/

/-- The output of a file, if it has one, is what rewriting the file now gives, and what it leaves
unresolved is pending, for this file. -/
def UpToDate (project : Project) (session : Session) (feed : Feed) (file : String) : Prop :=
  ∀ rewriting, feed.outputs.get? file = some rewriting →
    ∃ unit, unit.path = file ∧ project.scope.Reads session.files unit
      ∧ project.rules.rewrite session.index unit = .ok rewriting
      ∧ ∀ request ∈ rewriting.unresolved,
        (request.phrase, request.ns) ∈ session.pending.pairs
          ∧ file ∈ session.pending.files.keys

theorem upToDate_of_get?_eq_none {session : Session} (h : feed.outputs.get? file = none) :
    project.UpToDate session feed file := by
  intro rewriting hrewriting
  rw [h] at hrewriting
  cases hrewriting

/-- Of a session only files, index and pending phrases matter. -/
theorem UpToDate.congr (h : project.UpToDate before feed file) (hagrees : after.Agrees before) :
    project.UpToDate after feed file := by
  unfold UpToDate at h ⊢
  rw [hagrees.files, hagrees.index, hagrees.pending]
  exact h

/-- **A fed file is up to date.** -/
theorem Fed.upToDate_self (h : project.Fed file before feed after feedAfter) :
    project.UpToDate after feedAfter file := by
  cases h with
  | accepted hpath hread hrewrite =>
    intro rewriting hrewriting
    rw [Feed.get?_outputs_accept, if_pos rfl] at hrewriting
    cases hrewriting
    refine ⟨_, hpath, hread, hrewrite, fun request hrequest => ⟨?_, ?_⟩⟩
    · exact Pending.mem_pairs_addUnresolved.2 (.inr ⟨request, hrequest, rfl, rfl⟩)
    · refine Pending.mem_files_addUnresolved.2 (.inr ⟨request, hrequest, ?_⟩)
      rw [MarkerRules.file_of_mem_unresolved hrewrite hrequest, hpath]
  | rejected =>
    refine upToDate_of_get?_eq_none ?_
    rw [Feed.get?_outputs_reject, if_pos rfl]

/-- **Feeding a file leaves the others up to date.** -/
theorem Fed.upToDate_other (h : project.Fed file before feed after feedAfter) (hne : file ≠ other)
    (hother : project.UpToDate before feed other) : project.UpToDate after feedAfter other := by
  cases h with
  | accepted hpath hread hrewrite =>
    intro rewriting hrewriting
    rw [Feed.get?_outputs_accept, if_neg hne] at hrewriting
    obtain ⟨unit, hunit, hreads, hrewritten, hpending⟩ := hother rewriting hrewriting
    refine ⟨unit, hunit, hreads, hrewritten, fun request hrequest => ?_⟩
    obtain ⟨hpair, hfile⟩ := hpending request hrequest
    exact ⟨Pending.mem_pairs_addUnresolved.2 (.inl hpair),
      Pending.mem_files_addUnresolved.2 (.inl hfile)⟩
  | rejected =>
    intro rewriting hrewriting
    rw [Feed.get?_outputs_reject, if_neg hne] at hrewriting
    exact hother rewriting hrewriting

/-- **After a feeding every output is up to date** that was fed or was up to date before. -/
theorem FedAll.upToDate (h : project.FedAll files before feed after feedAfter)
    (hother : file ∉ files → project.UpToDate before feed file) :
    project.UpToDate after feedAfter file := by
  induction h with
  | nil => exact hother List.not_mem_nil
  | @cons first rest _ _ _ _ _ _ hfirst _ ih =>
    refine ih fun hrest => ?_
    by_cases hsame : first = file
    · exact hsame ▸ hfirst.upToDate_self
    · exact hfirst.upToDate_other hsame (hother fun hmem =>
        (List.mem_cons.1 hmem).elim (fun heq => hsame heq.symm) hrest)

end Project

end Phrasebook
