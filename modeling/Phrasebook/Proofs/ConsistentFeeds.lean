import Mathlib.Logic.Relation
import Phrasebook.Proofs.Feeding

/-!
# Consistent feeds

A feed keeps the rewritings of files and the failures of files apart from each other. Taking in the
result of a file clears what the feed knew of it on both sides before it is noted on one of them,
and a problem that ends a feeding clears at most its failure. So a file never has a rewriting and a
failure, nor two failures, whatever files were fed before, with whatever contents, and however the
feedings ended.

Results:
* `Feed.Consistent.take`: a result that is taken in keeps a feed consistent.
* `Project.feeds_of_feedFiles`: a feeding comes to the results of the files that it fed, in order,
  and leaves the entries of the others.
* `Feed.consistent_of_run`: both for any sequence of feedings.
-/

namespace Phrasebook

namespace Feed

variable {feed : Feed} {file other : String} {rewriting : Rewriting} {problem : Problem}

/-! ## Entries -/

/-- What a feed knows of a file. -/
def entry (feed : Feed) (file : String) : Option Rewriting × List FileFailure :=
  (feed.outputs.get? file, feed.failures.filter (·.file == file))

/-- What is known of a file after its rewriting, or the problem with its script, was taken in. -/
def entryOf (file : String) : Except Problem Rewriting → Option Rewriting × List FileFailure
  | .ok rewriting => (some rewriting, [])
  | .error problem => (none, [⟨file, problem.message⟩])

theorem filter_withoutFailure_self :
    (feed.withoutFailure file).failures.filter (·.file == file) = [] := by
  unfold withoutFailure
  rw [List.filter_filter, List.filter_eq_nil_iff]
  simp

theorem filter_withoutFailure_of_ne (hne : other ≠ file) :
    (feed.withoutFailure file).failures.filter (·.file == other)
      = feed.failures.filter (·.file == other) := by
  unfold withoutFailure
  rw [List.filter_filter]
  refine List.filter_congr fun failure _ => ?_
  by_cases hsame : failure.file = other
  · simp [hsame, hne]
  · simp [hsame]

theorem entry_withoutFailure_of_ne (hne : other ≠ file) :
    (feed.withoutFailure file).entry other = feed.entry other :=
  Prod.ext rfl (filter_withoutFailure_of_ne hne)

/-- A file that was rewritten has its rewriting and no failure. -/
theorem entry_accept_self : (feed.accept file rewriting).entry file = (some rewriting, []) :=
  Prod.ext ((get?_outputs_accept rewriting).trans (if_pos rfl)) filter_withoutFailure_self

theorem entry_accept_of_ne (hne : other ≠ file) :
    (feed.accept file rewriting).entry other = feed.entry other :=
  Prod.ext ((get?_outputs_accept rewriting).trans (if_neg (Ne.symm hne)))
    (filter_withoutFailure_of_ne hne)

/-- A file that could not be rewritten has one failure and no rewriting. -/
theorem entry_reject_self (message : String) :
    (feed.reject file message).entry file = (none, [⟨file, message⟩]) := by
  refine Prod.ext ((get?_outputs_reject message).trans (if_pos rfl)) ?_
  show List.filter (·.file == file) (_ ++ [FileFailure.mk file message]) = _
  rw [List.filter_append, filter_withoutFailure_self]
  simp

theorem entry_reject_of_ne (message : String) (hne : other ≠ file) :
    (feed.reject file message).entry other = feed.entry other := by
  refine Prod.ext ((get?_outputs_reject message).trans (if_neg (Ne.symm hne))) ?_
  show List.filter (·.file == other) (_ ++ [FileFailure.mk file message]) = _
  rw [List.filter_append, filter_withoutFailure_of_ne hne]
  simp [Ne.symm hne, entry]

/-! ## What keeps feeds consistent -/

/-- No file has a rewriting and a failure, and no file has two failures. -/
structure Consistent (feed : Feed) : Prop where
  apart : ∀ failure ∈ feed.failures, feed.outputs.get? failure.file = none
  single : (feed.failures.map (·.file)).Nodup

theorem consistent_empty : empty.Consistent := ⟨nofun, List.nodup_nil⟩

theorem Consistent.withoutFailure (h : feed.Consistent) (file : String) :
    (feed.withoutFailure file).Consistent where
  apart failure hmem := h.apart failure (List.mem_filter.1 hmem).1
  single := h.single.sublist (List.filter_sublist.map _)

theorem Consistent.accept (h : feed.Consistent) (file : String) (rewriting : Rewriting) :
    (feed.accept file rewriting).Consistent where
  apart failure hmem := by
    obtain ⟨hold, hne⟩ := List.mem_filter.1 hmem
    rw [get?_outputs_accept, if_neg (Ne.symm (bne_iff_ne.1 hne))]
    exact h.apart failure hold
  single := (h.withoutFailure file).single

theorem Consistent.reject (h : feed.Consistent) (file message : String) :
    (feed.reject file message).Consistent where
  apart failure hmem := by
    rw [get?_outputs_reject]
    split
    · rfl
    · next hne =>
      rcases List.mem_append.1 hmem with hold | hnew
      · exact h.apart failure (List.mem_filter.1 hold).1
      · exact absurd (congrArg FileFailure.file (List.mem_singleton.1 hnew)).symm hne
  single := by
    show (List.map (·.file) (_ ++ [FileFailure.mk file message])).Nodup
    rw [List.map_append, List.map_singleton, List.nodup_append]
    refine ⟨(h.withoutFailure file).single, List.nodup_singleton _, ?_⟩
    intro first hfirst second hsecond hsame
    obtain ⟨failure, hmem, rfl⟩ := List.mem_map.1 hfirst
    exact bne_iff_ne.1 (List.mem_filter.1 hmem).2 (hsame.trans (List.mem_singleton.1 hsecond))

theorem Consistent.retain (h : feed.Consistent) (keep : String → Bool) :
    (feed.retain keep).Consistent where
  apart failure hmem := by
    rw [get?_outputs_retain, h.apart failure hmem, ite_self]
  single := h.single

/-- **A result that is taken in keeps a feed consistent**, whatever it is. -/
theorem Consistent.take (h : feed.Consistent) (file : String) (found : Except Problem Rewriting) :
    (feed.take file found).1.Consistent := by
  unfold Feed.take
  split
  · exact h.accept file _
  · exact h.reject file _
  · exact h.withoutFailure file

/-- A result that is taken in leaves what is known of other files. -/
theorem entry_take_of_ne (found : Except Problem Rewriting) (hne : other ≠ file) :
    (feed.take file found).1.entry other = feed.entry other := by
  unfold Feed.take
  split
  · exact entry_accept_of_ne hne
  · exact entry_reject_of_ne _ hne
  · exact entry_withoutFailure_of_ne hne

/-- A result is noted, unless it is a problem to be passed on. -/
theorem take_eq_none_or (feed : Feed) (file : String) (found : Except Problem Rewriting) :
    (feed.take file found).2 = none
        ∧ (feed.take file found).1.entry file = entryOf file found
      ∨ ∃ problem, found = .error problem ∧ (feed.take file found).2 = some problem := by
  unfold Feed.take
  split
  · exact .inl ⟨rfl, entry_accept_self⟩
  · exact .inl ⟨rfl, entry_reject_self _⟩
  · exact .inr ⟨_, rfl, rfl⟩

end Feed

namespace Project

open HostAction Desk SessionAction

variable {project : Project} {mode : BuildMode} {before middle after : Session}
  {desk deskMiddle deskAfter : Desk} {found : Except Problem Unit} {file : String}
  {names : List String}

/-! ## Feedings -/

/-- **What feeding files comes to.** Each fed file has its result in the feed, or each one before a
file with a problem that ends the feeding. All others are known as before. -/
inductive Feeds (project : Project) (files : FileTree) (index : PhraseIndex) (names : List String)
    (feed feedAfter : Feed) : Except Problem Unit → Prop
  | done (entries : ∀ file, feedAfter.entry file
      = if file ∈ names then Feed.entryOf file (project.rewriteFile files index file)
        else feed.entry file) :
      Feeds project files index names feed feedAfter (.ok ())
  | stopped {front rest : List String} {last : String} {problem : Problem}
      (names_eq : names = front ++ last :: rest)
      (refused : project.rewriteFile files index last = .error problem)
      (entries : ∀ file, file ≠ last → feedAfter.entry file
        = if file ∈ front then Feed.entryOf file (project.rewriteFile files index file)
          else feed.entry file) :
      Feeds project files index names feed feedAfter (.error problem)

section Feeds

variable {files : FileTree} {index : PhraseIndex} {first : String} {rest : List String}
  {feed feedMiddle feedAfter : Feed}

/-- A feeding that goes on after its first file. -/
theorem Feeds.cons (hfirst : project.Feeds files index [first] feed feedMiddle (.ok ()))
    (hrest : project.Feeds files index rest feedMiddle feedAfter found) :
    project.Feeds files index (first :: rest) feed feedAfter found := by
  obtain ⟨hentries⟩ := hfirst
  have hmiddle : ∀ (more : List String) (file : String),
      (if file ∈ more then Feed.entryOf file (project.rewriteFile files index file)
        else feedMiddle.entry file)
        = if file ∈ first :: more then Feed.entryOf file (project.rewriteFile files index file)
          else feed.entry file := by
    intro more file
    rw [hentries]
    by_cases hmore : file ∈ more
    · rw [if_pos hmore, if_pos (List.mem_cons_of_mem _ hmore)]
    · simp [hmore]
  cases hrest with
  | done hrest => exact .done fun file => (hrest file).trans (hmiddle rest file)
  | @stopped front others last _ hnames hrefused hrest =>
    have hnames' : first :: rest = (first :: front) ++ last :: others := by rw [hnames]; rfl
    exact .stopped hnames' hrefused fun file hne => (hrest file hne).trans (hmiddle front file)

/-- A feeding that ends at its first file. -/
theorem Feeds.head {problem : Problem}
    (hfirst : project.Feeds files index [first] feed feedAfter (.error problem))
    (rest : List String) :
    project.Feeds files index (first :: rest) feed feedAfter (.error problem) := by
  cases hfirst with
  | @stopped front others last _ hnames hrefused hentries =>
    obtain ⟨rfl, rfl, -⟩ : front = [] ∧ last = first ∧ others = [] := by
      cases front <;> simp_all
    exact .stopped (List.nil_append (last :: rest)).symm hrefused hentries

end Feeds

/-- What feeding files leaves alone: the files, the index and the console, and in production the
whole session. -/
structure Undisturbed (mode : BuildMode) (before after : Session) (desk deskAfter : Desk) :
    Prop where
  files : after.files = before.files
  index : after.index = before.index
  session : mode = .production → after = before
  console : deskAfter.console = desk.console

theorem Undisturbed.refl (mode : BuildMode) (session : Session) (desk : Desk) :
    Undisturbed mode session session desk desk := ⟨rfl, rfl, fun _ => rfl, rfl⟩

theorem Undisturbed.trans (h : Undisturbed mode before middle desk deskMiddle)
    (h' : Undisturbed mode middle after deskMiddle deskAfter) :
    Undisturbed mode before after desk deskAfter where
  files := h'.files.trans h.files
  index := h'.index.trans h.index
  session hmode := (h'.session hmode).trans (h.session hmode)
  console := h'.console.trans h.console

theorem exists_runOn_rewriteCollecting (project : Project) (mode : BuildMode) (unit : SourceUnit)
    (session : Session) :
    ∃ after, (project.rewriteCollecting mode unit).runOn session
        = (project.rules.rewrite session.index unit, after)
      ∧ after.files = session.files ∧ after.index = session.index
      ∧ (mode = .production → after = session) := by
  cases mode with
  | development =>
    rw [runOn_rewriteCollecting]
    cases project.rules.rewrite session.index unit <;> exact ⟨_, rfl, rfl, rfl, nofun⟩
  | production =>
    exact ⟨_, runOn_rewriteCollecting_production project unit session, rfl, rfl, fun _ => rfl⟩

/-- **Feeding one file**, in any mode. -/
theorem feeds_of_feedFile
    (h : runOn (feedFile project mode file) before desk = (found, after, deskAfter)) :
    project.Feeds before.files before.index [file] desk.feed deskAfter.feed found
      ∧ (desk.feed.Consistent → deskAfter.feed.Consistent)
      ∧ Undisturbed mode before after desk deskAfter := by
  cases hread : before.files.readText (project.scope.resolve file) with
  | error fault =>
    rw [runOn_feedFile_of_unread hread] at h
    cases h
    exact ⟨.stopped (List.nil_append [file]).symm (rewriteFile_of_unread hread) fun _ _ => rfl, id,
      .refl _ _ _⟩
  | ok code =>
    have hreads : project.scope.Reads before.files ⟨file, code⟩ := hread
    obtain ⟨_, hrewrite, hfiles, hindex, hsession⟩ :=
      exists_runOn_rewriteCollecting project mode ⟨file, code⟩ before
    rw [← rewriteFile_of_readText hread] at hrewrite
    rw [runOn_feedFile hreads hrewrite] at h
    obtain ⟨rfl, rfl, rfl⟩ : _ = found ∧ _ = after ∧ _ = deskAfter := by simpa using h
    refine ⟨?_, fun hfeed => hfeed.take file _, hfiles, hindex, hsession, rfl⟩
    rcases desk.feed.take_eq_none_or file (project.rewriteFile before.files before.index file) with
      ⟨hnone, hself⟩ | ⟨problem, hproblem, hsome⟩
    · rw [hnone]
      refine .done fun other => ?_
      by_cases hsame : other = file
      · rw [if_pos (List.mem_singleton.2 hsame), hsame]
        exact hself
      · rw [if_neg fun hmem => hsame (List.mem_singleton.1 hmem)]
        exact Feed.entry_take_of_ne _ hsame
    · rw [hsome]
      exact .stopped (List.nil_append [file]).symm hproblem fun other hne =>
        Feed.entry_take_of_ne _ hne

/-- **Feeding files**, in any mode: one after the other, up to the first problem that is passed
on. -/
theorem feeds_of_feedFiles
    (h : runOn (feedFiles project mode names) before desk = (found, after, deskAfter)) :
    project.Feeds before.files before.index names desk.feed deskAfter.feed found
      ∧ (desk.feed.Consistent → deskAfter.feed.Consistent)
      ∧ Undisturbed mode before after desk deskAfter := by
  induction names generalizing before desk with
  | nil =>
    cases h
    exact ⟨.done fun file => (if_neg List.not_mem_nil).symm, id, .refl _ _ _⟩
  | cons first rest ih =>
    have hlater : ∀ {middle : Session} {deskMiddle : Desk},
        runOn (feedFile project mode first) before desk = (.ok (), middle, deskMiddle) →
        runOn (feedFiles project mode rest) middle deskMiddle = (found, after, deskAfter) →
          project.Feeds before.files before.index (first :: rest) desk.feed deskAfter.feed found
            ∧ (desk.feed.Consistent → deskAfter.feed.Consistent)
            ∧ Undisturbed mode before after desk deskAfter := by
      intro middle deskMiddle hfirst hmore
      obtain ⟨hfeeds, hconsistent, hsame⟩ := feeds_of_feedFile hfirst
      obtain ⟨hfeeds', hconsistent', hsame'⟩ := ih hmore
      rw [hsame.files, hsame.index] at hfeeds'
      exact ⟨hfeeds.cons hfeeds', hconsistent' ∘ hconsistent, hsame.trans hsame'⟩
    cases found with
    | ok =>
      obtain ⟨_, _, _, hfirst, hmore⟩ := HostAction.exists_of_runOn_bind h
      exact hlater hfirst hmore
    | error problem =>
      rcases HostAction.runOn_bind_eq_error h with hfirst | ⟨_, _, _, hfirst, hmore⟩
      · obtain ⟨hfeeds, hconsistent, hsame⟩ := feeds_of_feedFile hfirst
        exact ⟨hfeeds.head rest, hconsistent, hsame⟩
      · exact hlater hfirst hmore

end Project

namespace Feed

open HostAction Desk

/-- A feed after a feeding, in any session and however it ended, or without the rewritings of some
files. -/
inductive Proceeds : Feed → Feed → Prop
  | feed {project : Project} {mode : BuildMode} {names : List String} {before after : Session}
      {desk deskAfter : Desk} {found : Except Problem Unit}
      (run : runOn (feedFiles project mode names) before desk = (found, after, deskAfter)) :
      Proceeds desk.feed deskAfter.feed
  | retain (feed : Feed) (keep : String → Bool) : Proceeds feed (feed.retain keep)

theorem Proceeds.consistent {feed feedAfter : Feed} (h : Proceeds feed feedAfter)
    (hfeed : feed.Consistent) : feedAfter.Consistent := by
  cases h with
  | feed run => exact (Project.feeds_of_feedFiles run).2.1 hfeed
  | retain _ keep => exact hfeed.retain keep

/-- **Feeds stay consistent**, whatever files are fed, in whatever state they are each time, and
even if a problem ends a feeding. After a feeding that ends well each fed file has the result that
it came to last, and all others are known as before. -/
theorem consistent_of_run {feed : Feed} (run : Relation.ReflTransGen Proceeds empty feed) :
    feed.Consistent
      ∧ ∀ (project : Project) (mode : BuildMode) (names : List String) (before after : Session)
        (desk deskAfter : Desk) (found : Except Problem Unit), desk.feed = feed →
        runOn (feedFiles project mode names) before desk = (found, after, deskAfter) →
          deskAfter.feed.Consistent
            ∧ project.Feeds before.files before.index names feed deskAfter.feed found := by
  have hconsistent : feed.Consistent := by
    induction run with
    | refl => exact consistent_empty
    | tail _ step ih => exact step.consistent ih
  refine ⟨hconsistent, ?_⟩
  rintro project mode names before after desk deskAfter found rfl hrun
  obtain ⟨hfeeds, hkept, -⟩ := Project.feeds_of_feedFiles hrun
  exact ⟨hkept hconsistent, hfeeds⟩

/-- The small project with scripts. -/
def smallScripts : Project :=
  { Project.small with settings := { Project.small.settings with source := .tree } }

/-- The scripts of the small project, one with the given code and one that asks for a namespace
that there is not. -/
def smallScript (code : String) : Session :=
  Project.smallStart [("/p/src/bad.ts", .file (.text code) 0),
    ("/p/src/odd.ts", .file (.text "i18n.s('你好', 'odd')") 0)]

/-- The desk after a script was fed that is none. -/
def smallFed : Desk :=
  (runOn (feedFiles smallScripts .development ["src/app.ts", "src/bad.ts"])
    (smallScript "const = ;") ⟨Console.start false false, empty⟩).2.2

theorem proceeds_smallFed : Proceeds empty smallFed.feed := by
  unfold smallFed
  exact .feed (runOn_eq_mk (by decide +kernel) :
    runOn (feedFiles smallScripts .development ["src/app.ts", "src/bad.ts"])
      (smallScript "const = ;") ⟨Console.start false false, empty⟩ = (.ok (), _, _))

/-- The script is corrected, and then a feeding ends at the odd one. -/
theorem consistent_small_of_run :
    ∃ after deskAfter problem,
      runOn (feedFiles smallScripts .development ["src/bad.ts", "src/odd.ts", "src/app.ts"])
          (smallScript "i18n.s('世界')") smallFed = (.error problem, after, deskAfter)
        ∧ deskAfter.feed.Consistent
        ∧ smallScripts.Feeds (smallScript "i18n.s('世界')").files PhraseIndex.empty
          ["src/bad.ts", "src/odd.ts", "src/app.ts"] smallFed.feed deskAfter.feed
          (.error problem) := by
  have hsecond : runOn
      (feedFiles smallScripts .development ["src/bad.ts", "src/odd.ts", "src/app.ts"])
      (smallScript "i18n.s('世界')") smallFed
        = (.error (.settings (.unknownNamespace "odd" ⟨"src/odd.ts", 1, 1⟩)), _, _) :=
    runOn_eq_mk (by decide +kernel)
  obtain ⟨hafter, hfeeds⟩ :=
    (consistent_of_run (.single proceeds_smallFed)).2 _ _ _ _ _ _ _ _ rfl hsecond
  exact ⟨_, _, _, hsecond, hafter, hfeeds⟩

end Feed

end Phrasebook
