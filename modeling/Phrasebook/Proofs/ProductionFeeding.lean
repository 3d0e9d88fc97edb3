import Phrasebook.Proofs.ConsistentFeeds

/-!
# Feeding in production

In production a file is fed without a trace in the session, so that every file is rewritten by the
index as it was at the start. A file obstructs a build that cannot be read, or whose marker calls
are no good or have a phrase without a key. A feed of files tells exactly which of them do.

Results:
* `Project.obstructs_iff`: a file obstructs a build unless its rewriting leaves nothing unresolved.
* `Project.runOn_feedFiles_production`: what feeding files in production comes to.
* `Feed.Holds.done_iff`: a feed leaves nothing to do if none of its files obstructs a build.
-/

namespace Phrasebook

/-! ## Obstacles -/

namespace Project

variable {project : Project} {files : FileTree} {index : PhraseIndex} {file : String}

/-- **What is wrong with a source file** for production: it cannot be read, or it is not below a
vendor directory and its marker calls cannot be found, or one of them is of an unknown namespace or
has a phrase without a key. -/
inductive Obstructs (project : Project) (files : FileTree) (index : PhraseIndex) (file : String) :
    Prop
  | unread {fault : FileFault}
      (hread : files.readText (project.scope.resolve file) = .error fault)
  | unparsed {unit : SourceUnit} {problem : Problem} (hpath : unit.path = file)
      (hread : project.scope.Reads files unit)
      (hvendored : project.rules.isVendored file = false)
      (hfind : project.rules.find unit = .error problem)
  | unknown {unit : SourceUnit} {calls : List MarkerCall} {call : MarkerCall}
      (hpath : unit.path = file) (hread : project.scope.Reads files unit)
      (hvendored : project.rules.isVendored file = false)
      (hfind : project.rules.find unit = .ok calls) (hcall : call ∈ calls)
      (hnamespace : call.namespaceName ∉ project.rules.namespaces)
  | unresolved {unit : SourceUnit} {calls : List MarkerCall} {call : MarkerCall}
      (hpath : unit.path = file) (hread : project.scope.Reads files unit)
      (hvendored : project.rules.isVendored file = false)
      (hfind : project.rules.find unit = .ok calls) (hcall : call ∈ calls)
      (hkey : index.lookup? call.namespaceName call.phrase = none)

/-- A file whose rewriting leaves nothing unresolved is no obstacle. -/
theorem not_obstructs_of_rewriteFile {rewriting : Rewriting}
    (hrewrite : project.rewriteFile files index file = .ok rewriting)
    (hnothing : rewriting.unresolved = []) : ¬project.Obstructs files index file := by
  intro hobstructs
  obtain ⟨unit, rfl, hread, hrewrite⟩ := rewriteFile_eq_ok_iff.1 hrewrite
  have hcalls : ∀ {other : SourceUnit}, other.path = unit.path →
      project.scope.Reads files other → project.rules.isVendored unit.path = false →
      other = unit ∧ ∃ calls, project.rules.findKnown unit = .ok calls := by
    intro other hpath hother hvendored
    refine ⟨hother.unique hread hpath, ?_⟩
    rcases MarkerRules.rewrite_eq_ok_iff.1 hrewrite with ⟨hcontra, -⟩ | ⟨-, calls, hcalls, -⟩
    · rw [hvendored] at hcontra
      cases hcontra
    · exact ⟨calls, hcalls⟩
  cases hobstructs with
  | unread hunread =>
    unfold SourceScope.Reads at hread
    rw [hunread] at hread
    cases hread
  | unparsed hpath hother hvendored hfind =>
    obtain ⟨rfl, calls, hknown⟩ := hcalls hpath hother hvendored
    rw [(MarkerRules.findKnown_eq_ok_iff.1 hknown).1] at hfind
    cases hfind
  | unknown hpath hother hvendored hfind hcall hnamespace =>
    obtain ⟨rfl, calls, hknown⟩ := hcalls hpath hother hvendored
    obtain ⟨hfound, hnamespaces⟩ := MarkerRules.findKnown_eq_ok_iff.1 hknown
    rw [hfound] at hfind
    cases hfind
    exact hnamespace (hnamespaces _ hcall)
  | unresolved hpath hother hvendored hfind hcall hkey =>
    obtain ⟨rfl, -⟩ := hcalls hpath hother hvendored
    have hsome :=
      MarkerRules.isSome_lookup?_of_rewrite hrewrite hnothing hvendored hfind hcall
    rw [hkey] at hsome
    cases hsome

/-- A unit that is searched and has keys for all its calls, of known namespaces, is rewritten with
nothing unresolved. -/
theorem exists_rewrite_of_find {unit : SourceUnit} {calls : List MarkerCall}
    (hvendored : project.rules.isVendored unit.path = false)
    (hfind : project.rules.find unit = .ok calls)
    (hknown : ∀ call ∈ calls, call.namespaceName ∈ project.rules.namespaces)
    (hkeys : ∀ call ∈ calls, index.lookup? call.namespaceName call.phrase ≠ none) :
    ∃ rewriting, project.rules.rewrite index unit = .ok rewriting ∧ rewriting.unresolved = [] := by
  refine ⟨_, MarkerRules.rewrite_eq_ok_iff.2 (.inr ⟨hvendored, calls,
    MarkerRules.findKnown_eq_ok_iff.2 ⟨hfind, hknown⟩, rfl⟩), ?_⟩
  refine List.eq_nil_iff_forall_not_mem.2 fun request hrequest => ?_
  obtain ⟨call, hcall, hnone, -⟩ := MarkerRules.mem_unresolved_rewritingOf.1 hrequest
  exact hkeys call hcall hnone

/-- **A file is no obstacle** if its rewriting leaves nothing unresolved. -/
theorem obstructs_iff :
    project.Obstructs files index file
      ↔ ¬∃ rewriting, project.rewriteFile files index file = .ok rewriting
        ∧ rewriting.unresolved = [] := by
  constructor
  · rintro hobstructs ⟨rewriting, hrewrite, hnothing⟩
    exact not_obstructs_of_rewriteFile hrewrite hnothing hobstructs
  · intro hnot
    cases hread : files.readText (project.scope.resolve file) with
    | error fault => exact .unread hread
    | ok code =>
      obtain ⟨unit, rfl, hunit⟩ : ∃ unit : SourceUnit, unit.path = file
          ∧ project.scope.Reads files unit := ⟨⟨file, code⟩, rfl, hread⟩
      rw [rewriteFile_of_reads hunit] at hnot
      cases hvendored : project.rules.isVendored unit.path with
      | true =>
        exact absurd ⟨_, MarkerRules.rewrite_of_isVendored hvendored index, rfl⟩ hnot
      | false =>
        cases hfind : project.rules.find unit with
        | error problem => exact .unparsed rfl hunit hvendored hfind
        | ok calls =>
          by_cases hunknown : ∃ call ∈ calls, call.namespaceName ∉ project.rules.namespaces
          · obtain ⟨call, hcall, hnamespace⟩ := hunknown
            exact .unknown rfl hunit hvendored hfind hcall hnamespace
          by_cases hlacks : ∃ call ∈ calls, index.lookup? call.namespaceName call.phrase = none
          · obtain ⟨call, hcall, hnone⟩ := hlacks
            exact .unresolved rfl hunit hvendored hfind hcall hnone
          refine absurd (exists_rewrite_of_find hvendored hfind (fun call hcall => ?_)
            fun call hcall hnone => hlacks ⟨call, hcall, hnone⟩) hnot
          exact not_not.1 fun hnamespace => hunknown ⟨call, hcall, hnamespace⟩

/-- A marker call of a source file has a phrase without a key. -/
def Lacks (project : Project) (files : FileTree) (index : PhraseIndex) (request : Unresolved) :
    Prop :=
  ∃ unit, unit.path ∈ project.searched files ∧ project.scope.Reads files unit
    ∧ project.rules.isVendored unit.path = false
    ∧ ∃ calls, project.rules.find unit = .ok calls
    ∧ ∃ call ∈ calls, index.lookup? call.namespaceName call.phrase = none
      ∧ request = ⟨call.phrase, call.namespaceName, call.location, call.sourceLine⟩

/-- What rewritings leave unresolved lacks a key. -/
theorem lacks_iff (h : ∀ file ∈ project.searched files,
      ∃ rewriting, project.rewriteFile files index file = .ok rewriting) {request : Unresolved} :
    project.Lacks files index request
      ↔ ∃ file ∈ project.searched files, ∃ rewriting,
        project.rewriteFile files index file = .ok rewriting ∧ request ∈ rewriting.unresolved := by
  constructor
  · rintro ⟨unit, hmem, hread, hvendored, calls, hfind, call, hcall, hnone, rfl⟩
    obtain ⟨rewriting, hrewrite⟩ := h _ hmem
    refine ⟨unit.path, hmem, rewriting, hrewrite, ?_⟩
    rw [rewriteFile_of_reads hread] at hrewrite
    rcases MarkerRules.rewrite_eq_ok_iff.1 hrewrite with ⟨hcontra, -⟩ | ⟨-, known, hknown, rfl⟩
    · rw [hvendored] at hcontra
      cases hcontra
    · rw [(MarkerRules.findKnown_eq_ok_iff.1 hknown).1] at hfind
      cases hfind
      exact MarkerRules.mem_unresolved_rewritingOf.2 ⟨call, hcall, hnone, rfl⟩
  · rintro ⟨file, hmem, rewriting, hrewrite, hrequest⟩
    obtain ⟨unit, rfl, hread, hrewrite⟩ := rewriteFile_eq_ok_iff.1 hrewrite
    rcases MarkerRules.rewrite_eq_ok_iff.1 hrewrite with ⟨-, rfl⟩ | ⟨hvendored, calls, hknown, rfl⟩
    · cases hrequest
    · obtain ⟨call, hcall, hnone, rfl⟩ := MarkerRules.mem_unresolved_rewritingOf.1 hrequest
      exact ⟨unit, hmem, hread, hvendored, calls, (MarkerRules.findKnown_eq_ok_iff.1 hknown).1,
        call, hcall, hnone, rfl⟩

end Project

/-! ## Feeding in production -/

/-- The feed holds the rewritings of some files, and notes those that have none. -/
structure Feed.Holds (project : Project) (files : FileTree) (index : PhraseIndex)
    (names : List String) (feed : Feed) : Prop where
  outputs : ∀ file, feed.outputs.get? file
    = if file ∈ names then (project.rewriteFile files index file).toOption else none
  failures : ∀ file, (∃ failure ∈ feed.failures, failure.file = file)
    ↔ file ∈ names ∧ (project.rewriteFile files index file).toOption = none

namespace Feed

variable {project : Project} {files : FileTree} {index : PhraseIndex} {names : List String}
  {feed : Feed} {file : String}

theorem holds_empty : Feed.Holds project files index [] empty :=
  ⟨fun _ => rfl, fun file => by simp [empty]⟩

theorem exists_failure_iff :
    (∃ failure ∈ feed.failures, failure.file = file) ↔ (feed.entry file).2 ≠ [] := by
  unfold entry
  simp [List.filter_eq_nil_iff]

/-- More files are fed. -/
theorem Holds.feeds (h : feed.Holds project files index names) {more : List String}
    {feedAfter : Feed} (hfeeds : project.Feeds files index more feed feedAfter (.ok ())) :
    feedAfter.Holds project files index (names ++ more) := by
  obtain ⟨hentries⟩ := hfeeds
  constructor
  · intro file
    refine (congrArg Prod.fst (hentries file)).trans ?_
    by_cases hmem : file ∈ more
    · rw [if_pos hmem, if_pos (List.mem_append_right names hmem)]
      cases project.rewriteFile files index file <;> rfl
    · rw [if_neg hmem]
      refine (h.outputs file).trans ?_
      simp [hmem]
  · intro file
    rw [exists_failure_iff, hentries]
    by_cases hmem : file ∈ more
    · rw [if_pos hmem]
      cases project.rewriteFile files index file <;> simp [entryOf, hmem, Except.toOption]
    · rw [if_neg hmem, ← exists_failure_iff, h.failures]
      simp [hmem]

/-- No file is noted if all have a rewriting. -/
theorem Holds.failures_eq_nil_iff (h : feed.Holds project files index names) :
    feed.failures = []
      ↔ ∀ file ∈ names, ∃ rewriting, project.rewriteFile files index file = .ok rewriting := by
  have hsome : ∀ file, (project.rewriteFile files index file).toOption ≠ none
      ↔ ∃ rewriting, project.rewriteFile files index file = .ok rewriting := by
    intro file
    cases project.rewriteFile files index file <;> simp [Except.toOption]
  constructor
  · intro hnil file hmem
    refine (hsome file).1 fun hnone => ?_
    obtain ⟨failure, hfailure, -⟩ := (h.failures file).2 ⟨hmem, hnone⟩
    rw [hnil] at hfailure
    cases hfailure
  · intro hall
    refine List.eq_nil_iff_forall_not_mem.2 fun failure hmem => ?_
    obtain ⟨hname, hnone⟩ := (h.failures failure.file).1 ⟨failure, hmem, rfl⟩
    exact (hsome failure.file).2 (hall _ hname) hnone

theorem Holds.get?_eq_some_iff (h : feed.Holds project files index names) {rewriting : Rewriting} :
    feed.outputs.get? file = some rewriting
      ↔ file ∈ names ∧ project.rewriteFile files index file = .ok rewriting := by
  rw [h.outputs]
  by_cases hmem : file ∈ names
  · simp [hmem, toOption_eq_some_iff]
  · simp [hmem]

/-- What is unresolved in the feed. -/
theorem Holds.mem_unresolved (h : feed.Holds project files index names) {request : Unresolved} :
    request ∈ feed.unresolved
      ↔ ∃ file ∈ names, ∃ rewriting,
        project.rewriteFile files index file = .ok rewriting ∧ request ∈ rewriting.unresolved := by
  unfold Feed.unresolved
  simp only [List.mem_flatMap, Dictionary.mem_values, h.get?_eq_some_iff]
  constructor
  · rintro ⟨rewriting, ⟨file, hmem, hrewrite⟩, hrequest⟩
    exact ⟨file, hmem, rewriting, hrewrite, hrequest⟩
  · rintro ⟨file, hmem, rewriting, hrewrite, hrequest⟩
    exact ⟨rewriting, ⟨file, hmem, hrewrite⟩, hrequest⟩

/-- **A feed leaves nothing to do** if none of its files obstructs a build. -/
theorem Holds.done_iff (h : feed.Holds project files index names) :
    feed.failures = [] ∧ feed.unresolved = []
      ↔ ∀ file ∈ names, ¬project.Obstructs files index file := by
  simp only [Project.obstructs_iff, not_not]
  rw [h.failures_eq_nil_iff]
  constructor
  · rintro ⟨hall, hnothing⟩ file hmem
    obtain ⟨rewriting, hrewrite⟩ := hall file hmem
    refine ⟨rewriting, hrewrite, List.eq_nil_iff_forall_not_mem.2 fun request hrequest => ?_⟩
    have hunresolved := h.mem_unresolved.2 ⟨file, hmem, rewriting, hrewrite, hrequest⟩
    rw [hnothing] at hunresolved
    cases hunresolved
  · intro hall
    refine ⟨fun file hmem => (hall file hmem).imp fun _ => And.left,
      List.eq_nil_iff_forall_not_mem.2 fun request hrequest => ?_⟩
    obtain ⟨file, hmem, rewriting, hrewrite, hrequest⟩ := h.mem_unresolved.1 hrequest
    obtain ⟨other, hother, hnothing⟩ := hall file hmem
    rw [hrewrite] at hother
    cases hother
    rw [hnothing] at hrequest
    cases hrequest

end Feed

namespace Project

open HostAction Desk SessionAction

variable {project : Project} {names files : List String} {session : Session} {desk : Desk}

/-- **Files are fed in production** one after the other, up to the first problem other than a file
that is no script. -/
theorem runOn_feedFiles_production
    (hfeed : desk.feed.Holds project session.files session.index names) :
    (∃ feed, runOn (feedFiles project .production files) session desk
          = (.ok (), session, { desk with feed })
        ∧ feed.Holds project session.files session.index (names ++ files))
      ∨ ∃ problem after, runOn (feedFiles project .production files) session desk
          = (.error problem, session, after)
        ∧ ∃ file ∈ files,
          project.rewriteFile session.files session.index file = .error problem := by
  rcases hrun : runOn (feedFiles project .production files) session desk with
    ⟨found, after, deskAfter⟩
  obtain ⟨hfeeds, -, hsame⟩ := feeds_of_feedFiles hrun
  obtain rfl : after = session := hsame.session rfl
  cases found with
  | ok =>
    refine .inl ⟨deskAfter.feed, ?_, hfeed.feeds hfeeds⟩
    rw [← hsame.console]
  | error problem =>
    cases hfeeds with
    | @stopped _ _ last _ hnames hrefused _ =>
      exact .inr ⟨problem, deskAfter, rfl, last,
        hnames ▸ List.mem_append_right _ List.mem_cons_self, hrefused⟩

end Project

end Phrasebook
