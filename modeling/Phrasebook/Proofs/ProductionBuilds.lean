import Phrasebook.Command.Build
import Phrasebook.Proofs.MarkerTextSearch
import Phrasebook.Proofs.PhraseReports
import Phrasebook.Proofs.ProductionFeeding
import Phrasebook.Proofs.SparedFiles

/-!
# Production builds

A production build writes everything or nothing. It looks at all source files first, and leaves all
files as they are if one of them obstructs it. Otherwise the rewriting of every file is written, and
nothing else is. No translation is asked for. Phrases without a key are all told, unless the report
of them breaks off; the build then breaks off with it.

Results:
* `Build.produced_of_action`: how a production build goes.
* `Build.allOrNothing_of_run`: it writes everything or nothing.
-/

namespace Phrasebook

/-! ## How a production build goes -/

namespace Build

open HostAction Desk

variable {project : Project} {start : Session} {directory : String} {console : Console}

/-- The session in which files are fed. -/
def feedingSession (start : Session) : Session := { start with notices := [] }

/-- The console when files are fed: what is odd about the included and ignored paths was told. -/
def feedingConsole (project : Project) (start : Session) (console : Console) : Console :=
  console.notice (start.notices ++ project.scope.warnings start.files)

/-- **How a production build goes.** -/
inductive Produced (project : Project) (start : Session) (directory : String) (console : Console) :
    Except Problem ExitStatus × Session × Desk → Prop
  /-- A file cannot be read or is of an unknown namespace. -/
  | stopped {file : String} {problem : Problem} {desk : Desk}
      (hmem : file ∈ project.searched start.files)
      (hproblem : project.rewriteFile start.files start.index file = .error problem) :
      Produced project start directory console (.error problem, feedingSession start, desk)
  /-- Some files are no scripts. -/
  | failed {feed : Feed} {desk : Desk}
      (hfeed : feed.Holds project start.files start.index (project.searched start.files))
      (hfailures : feed.failures ≠ []) :
      Produced project start directory console (.ok .error, feedingSession start, desk)
  /-- Some phrases have no key, and all of them are told. -/
  | aborted {feed : Feed}
      (hfeed : feed.Holds project start.files start.index (project.searched start.files))
      (hfailures : feed.failures = []) (hunresolved : feed.unresolved ≠ [])
      (hnear : feed.unresolved.any Report.isTooFar = false) :
      Produced project start directory console (.ok .error, feedingSession start,
        ⟨((feedingConsole project start console).print
            ((feedingConsole project start console).report.unresolved .error feed.unresolved)).complain
              (·.aborted feed.unresolved.length), feed⟩)
  /-- Some phrases have no key, and the report of them breaks off. -/
  | broken {feed : Feed}
      (hfeed : feed.Holds project start.files start.index (project.searched start.files))
      (hfailures : feed.failures = []) (hunresolved : feed.unresolved ≠ [])
      (hfar : feed.unresolved.any Report.isTooFar = true) :
      Produced project start directory console (.ok .broken, feedingSession start,
        ⟨(feedingConsole project start console).print
          ((feedingConsole project start console).report.unresolved .error feed.unresolved), feed⟩)
  /-- The rewritings are written. -/
  | finished {feed : Feed} {found : Except Problem Unit} {after : Session} {desk : Desk}
      (hfeed : feed.Holds project start.files start.index (project.searched start.files))
      (hfailures : feed.failures = []) (hunresolved : feed.unresolved = [])
      (hfinish : runOn (finish (some directory)) (feedingSession start)
        ⟨feedingConsole project start console, feed⟩ = (found, after, desk)) :
      Produced project start directory console (found.map fun _ => .success, after, desk)

section Judge

variable {session : Session} {desk : Desk}

/-- Files that are no scripts end a build. -/
theorem exists_runOn_judge_of_failures (h : desk.feed.failures ≠ []) :
    ∃ after, runOn judge session desk = (.ok .error, session, after) := by
  unfold judge
  rw [HostAction.runOn_bind_of_runOn (runOn_kept session desk)]
  dsimp only
  rw [if_pos (by simpa using h)]
  exact ⟨_, rfl⟩

/-- Phrases without a key end a build. -/
theorem runOn_judge_of_unresolved (hfailures : desk.feed.failures = [])
    (h : desk.feed.unresolved ≠ []) :
    runOn judge session desk
      = (let console := desk.console.print
          (desk.console.report.unresolved .error desk.feed.unresolved)
        if desk.feed.unresolved.any Report.isTooFar then
          (.ok .broken, session, ⟨console, desk.feed⟩)
        else
          (.ok .error, session, ⟨console.complain (·.aborted desk.feed.unresolved.length),
            desk.feed⟩)) := by
  unfold judge
  rw [HostAction.runOn_bind_of_runOn (runOn_kept session desk)]
  dsimp only
  rw [if_neg (by simp [hfailures]), if_neg (by simpa using h),
    HostAction.runOn_bind_of_runOn (runOn_tellUnresolved _ _ _), Report.brokeOff_unresolved]
  cases desk.feed.unresolved.any Report.isTooFar <;> rfl

theorem runOn_judge_of_nothing (hfailures : desk.feed.failures = [])
    (h : desk.feed.unresolved = []) :
    runOn judge session desk = (.ok .success, session, desk) := by
  unfold judge
  rw [HostAction.runOn_bind_of_runOn (runOn_kept session desk)]
  dsimp only
  rw [if_neg (by simp [hfailures]), if_pos (by simp [h])]
  rfl

end Judge

/-- **A production build goes one of these ways.** -/
theorem produced_of_action (project : Project) (translator : Translator) (start : Session)
    (directory : String) (console : Console) :
    Produced project start directory console
      (runOn (action project .production translator (some directory)) start
        ⟨console, Feed.empty⟩) := by
  have hlook : runOn (work project.sourceFiles) start ⟨console, Feed.empty⟩
      = (.ok (project.searched start.files), feedingSession start,
        ⟨feedingConsole project start console, Feed.empty⟩) :=
    runOn_work project.sourceFiles start ⟨console, Feed.empty⟩
  have hempty : (⟨feedingConsole project start console, Feed.empty⟩ : Desk).feed.Holds project
      (feedingSession start).files (feedingSession start).index [] := Feed.holds_empty
  unfold action
  rw [HostAction.runOn_bind_of_runOn hlook]
  rcases Project.runOn_feedFiles_production hempty with
    ⟨feed, hrun, hfeed⟩ | ⟨problem, desk, hrun, file, hmem, hproblem⟩
  · rw [HostAction.runOn_bind_of_runOn hrun]
    rw [List.nil_append] at hfeed
    change feed.Holds project start.files start.index (project.searched start.files) at hfeed
    by_cases hfailures : feed.failures = []
    · by_cases hunresolved : feed.unresolved = []
      · rw [HostAction.runOn_bind_of_runOn (runOn_judge_of_nothing hfailures hunresolved)]
        dsimp only
        rw [if_pos (by decide)]
        rcases hfinish : runOn (finish (some directory)) (feedingSession start)
          ⟨feedingConsole project start console, feed⟩ with ⟨found, after, desk⟩
        have hproduced := Produced.finished hfeed hfailures hunresolved hfinish
        cases found with
        | ok => rwa [HostAction.runOn_bind_of_runOn hfinish]
        | error problem => rwa [HostAction.runOn_bind_of_runOn_error hfinish]
      · have hjudge := @runOn_judge_of_unresolved (feedingSession start)
          ⟨feedingConsole project start console, feed⟩ hfailures hunresolved
        dsimp only at hjudge
        cases hfar : feed.unresolved.any Report.isTooFar with
        | true =>
          rw [hfar, if_pos rfl] at hjudge
          rw [HostAction.runOn_bind_of_runOn hjudge]
          exact .broken hfeed hfailures hunresolved hfar
        | false =>
          rw [hfar, if_neg Bool.false_ne_true] at hjudge
          rw [HostAction.runOn_bind_of_runOn hjudge]
          exact .aborted hfeed hfailures hunresolved hfar
    · obtain ⟨after, hjudge⟩ := @exists_runOn_judge_of_failures (feedingSession start)
        ⟨feedingConsole project start console, feed⟩ hfailures
      rw [HostAction.runOn_bind_of_runOn hjudge]
      dsimp only
      rw [if_neg (by decide)]
      exact .failed hfeed hfailures
  · rw [HostAction.runOn_bind_of_runOn_error hrun]
    exact .stopped hmem hproblem

end Build

/-! ## Everything or nothing -/

/-- Notices are told as trouble. -/
theorem Console.output_notice (console : Console) (notices : List String) :
    (console.notice notices).output = console.output := by
  unfold notice
  split <;> rfl

theorem Console.report_print (console : Console) (printed : Printed) :
    (console.print printed).report = console.report := by
  unfold print
  dsimp only
  split <;> rfl

namespace Build

open HostAction Desk

/-- **A source file was built**: what its rewriting gives is at its place below the directory,
unless another source file leads there, and every marker call of a file that is not vendored became
a reference to its key. Calls of a syntax tree must lie in the file one after the other for that. -/
structure Built (project : Project) (index : PhraseIndex) (directory : String)
    (before after : FileTree) (file : String) (rewriting : Rewriting) : Prop where
  written : (∀ other ∈ project.searched before,
      FileTree.keyOf (FileTree.placeOf before.workingDirectory (Path.join directory other))
        = FileTree.keyOf (FileTree.placeOf before.workingDirectory (Path.join directory file)) →
      other = file) →
    after.readText (Path.join directory file) = .ok rewriting.code
  replaced : ∀ unit, unit.path = file → project.scope.Reads before unit →
    project.rules.isVendored file = false →
    (project.rules.source = .tree → project.rules.Fits unit) →
    ∀ calls, project.rules.find unit = .ok calls →
      project.rules.RefersAll index unit calls rewriting

/-- **A production build writes everything or nothing.** -/
structure AllOrNothing (project : Project) (index : PhraseIndex) (directory : String)
    (before : FileTree) (ran : Ran) : Prop where
  /-- Something is wrong with a source file: the build ends with a problem, gives up, or breaks off
  at a phrase without a key whose caret would stand too far to the right. It leaves all files as they
  are. -/
  nothing : (∃ file ∈ project.searched before, project.Obstructs before index file) →
    ((∃ problem, ran.result = .error problem) ∨ ran.result = .ok .error
      ∨ ran.result = .ok .broken
        ∧ ∃ request, project.Lacks before index request ∧ Report.isTooFar request = true)
      ∧ ran.files = before
  /-- Nothing is wrong: if the rewritings can be written, they are. -/
  all : (∀ file ∈ project.searched before, ¬project.Obstructs before index file) →
    ∃ outputs : Dictionary Rewriting,
      (∀ file rewriting, outputs.get? file = some rewriting
        ↔ file ∈ project.searched before
          ∧ project.rewriteFile before index file = .ok rewriting)
      ∧ (∀ file ∈ project.searched before, (outputs.get? file).isSome)
      ∧ ∀ after, Desk.Writes directory outputs.toList before after →
        ran.result = .ok .success ∧ ran.files = after
          ∧ ∀ file rewriting, outputs.get? file = some rewriting →
            Built project index directory before after file rewriting
  /-- Phrases without a key are all that is wrong: if no caret stands too far to the right, the build
  gives up and each of them is told, and otherwise it breaks off and those are told that no such
  caret keeps from being reached. -/
  told : (∀ file ∈ project.searched before,
      ∃ rewriting, project.rewriteFile before index file = .ok rewriting) →
    (∃ request, project.Lacks before index request) →
    ((∀ request, project.Lacks before index request → Report.isTooFar request = false)
          ∧ ran.result = .ok .error
        ∨ (∃ request, project.Lacks before index request ∧ Report.isTooFar request = true)
          ∧ ran.result = .ok .broken)
      ∧ ∃ unresolved, (∀ request, request ∈ unresolved ↔ project.Lacks before index request)
        ∧ ran.console.output = (ran.console.report.unresolved .error unresolved).text
        ∧ ∀ request, project.Lacks before index request → Report.Reached unresolved request →
          ∃ width front back, ran.console.output
            = front ++ (ran.console.report.phrase .error width request).text ++ back
  /-- The locale files stay as they are, whatever is wrong. -/
  locales : ∀ place, project.locales.IsPlace before.workingDirectory place →
    ran.files.fileAt? place = before.fileAt? place

section Main

variable {project : Project} {start after : Session} {directory : String} {console : Console}
  {found : Except Problem ExitStatus} {desk : Desk}

/-- The rewriting of a file that leaves nothing unresolved refers to the keys of its calls. -/
theorem refersAll_of_rewriteFile {files : FileTree} {index : PhraseIndex} {unit : SourceUnit}
    {rewriting : Rewriting} {calls : List MarkerCall}
    (hrewrite : project.rewriteFile files index unit.path = .ok rewriting)
    (hnothing : rewriting.unresolved = []) (hread : project.scope.Reads files unit)
    (hvendored : project.rules.isVendored unit.path = false)
    (hfits : project.rules.source = .tree → project.rules.Fits unit)
    (hfind : project.rules.find unit = .ok calls) :
    project.rules.RefersAll index unit calls rewriting := by
  have hfits : project.rules.Fits unit := by
    cases hsource : project.rules.source with
    | text => exact MarkerRules.fits_of_text hsource unit
    | tree => exact hfits hsource
  rw [Project.rewriteFile_of_reads hread] at hrewrite
  rcases MarkerRules.rewrite_eq_ok_iff.1 hrewrite with ⟨hcontra, -⟩ | ⟨-, known, hknown, rfl⟩
  · rw [hvendored] at hcontra
    cases hcontra
  · have hfound := (MarkerRules.findKnown_eq_ok_iff.1 hknown).1
    rw [hfind] at hfound
    cases hfound
    exact MarkerRules.refersAll_of_unresolved_eq_nil (hfits calls hfind) hnothing

/-- **What is written of a feed that leaves nothing unresolved**: its source files are built. -/
theorem built_of_writes {files written : FileTree} {index : PhraseIndex} {feed : Feed}
    {file : String} {rewriting : Rewriting}
    (hfeed : feed.Holds project files index (project.searched files))
    (hunresolved : feed.unresolved = [])
    (hwrites : Desk.Writes directory feed.outputs.toList files written)
    (houtput : feed.outputs.get? file = some rewriting) :
    Built project index directory files written file rewriting := by
  obtain ⟨hmem, hrewrite⟩ := hfeed.get?_eq_some_iff.1 houtput
  constructor
  case written =>
    intro halone
    refine hwrites.readText (Dictionary.mem_toList.2 houtput) feed.outputs.nodup_keys
      fun other hother hsame => ?_
    obtain ⟨found, hfound⟩ := Option.isSome_iff_exists.1 (Dictionary.mem_keys.1 hother)
    exact halone other (hfeed.get?_eq_some_iff.1 hfound).1 hsame
  case replaced =>
    rintro unit rfl hread hvendored hfits calls hfind
    have hnothing : rewriting.unresolved = [] :=
      List.eq_nil_iff_forall_not_mem.2 fun request hrequest => by
        have hleft := hfeed.mem_unresolved.2 ⟨_, hmem, rewriting, hrewrite, hrequest⟩
        rw [hunresolved] at hleft
        cases hleft
    exact refersAll_of_rewriteFile hrewrite hnothing hread hvendored hfits hfind

/-- Outputs that can be written are all that the end of a build changes. -/
theorem runOn_finish_of_writes {session : Session} {desk : Desk} {files : FileTree}
    (h : Desk.Writes directory desk.feed.outputs.toList session.files files) :
    runOn (finish (some directory)) session desk
      = (.ok (), { session with files },
        { desk with console := desk.console.tell (·.summary true desk.feed.summary) }) := by
  unfold finish
  dsimp only
  rw [HostAction.runOn_bind_of_runOn (runOn_kept session desk),
    HostAction.runOn_bind_of_runOn (h.runOn_writeOutputs session rfl desk)]
  rfl

/-- What a build comes to at its end leaves the locale files as they were. -/
theorem spares_of_finish {session after : Session} {desk told : Desk}
    {found : Except Problem Unit}
    (houtputs : ∀ output ∈ desk.feed.outputs.toList, ∃ unit, unit.path = output.1
      ∧ unit.path ∈ project.searched session.files ∧ project.scope.Reads session.files unit)
    (h : runOn (finish (some directory)) session desk = (found, after, told)) :
    FileTree.Spares (project.locales.IsPlace session.files.workingDirectory) session.files
      after.files := by
  rcases hwrite : runOn (writeOutputs directory desk.feed.outputs.toList) session desk with
    ⟨wrote, written, kept⟩
  have hspares : FileTree.Spares (project.locales.IsPlace session.files.workingDirectory)
      session.files written.files := by
    refine spares_of_writeOutputs hwrite fun output hmem place hplace hsame => ?_
    obtain ⟨unit, hpath, hsearched, hread⟩ := houtputs output hmem
    rw [← hpath] at hsame
    rcases hplace with hkey | hkey
    · exact SourceScope.keyOf_ne_fileKey hsearched hread _ directory project.locales _
        (hsame.symm.trans hkey)
    · exact SourceScope.keyOf_ne_fileKey hsearched hread _ directory project.locales _
        (hsame.symm.trans hkey)
  unfold finish at h
  dsimp only at h
  rw [HostAction.runOn_bind_of_runOn (runOn_kept session desk)] at h
  cases wrote with
  | ok =>
    rw [HostAction.runOn_bind_of_runOn hwrite] at h
    cases h
    exact hspares
  | error problem =>
    rw [HostAction.runOn_bind_of_runOn_error hwrite] at h
    cases h
    exact hspares

/-- What is printed after the files were fed is all that is told about the work. -/
theorem output_print_feedingConsole (project : Project) (start : Session)
    (hconsole : console.output = "") (printed : Printed) :
    ((feedingConsole project start console).print printed).output = printed.text := by
  have houtput : ((feedingConsole project start console).tell fun _ => printed.text).output
      = printed.text := by
    unfold Console.tell feedingConsole
    dsimp only
    rw [Console.output_notice, hconsole, String.empty_append]
  unfold Console.print
  dsimp only
  split <;> exact houtput

section Told

variable {feed : Feed} {ran : Ran}
  (hfeed : feed.Holds project start.files start.index (project.searched start.files))
  (hfailures : feed.failures = [])
include hfeed hfailures

/-- The phrases without a key of a feed without failures. -/
theorem mem_unresolved_iff_lacks (request : Unresolved) :
    request ∈ feed.unresolved ↔ project.Lacks start.files start.index request :=
  hfeed.mem_unresolved.trans (Project.lacks_iff (hfeed.failures_eq_nil_iff.1 hfailures)).symm

/-- Which phrases without a key are told. -/
theorem told_of_output
    (houtput : ran.console.output
      = (ran.console.report.unresolved .error feed.unresolved).text) :
    ∃ unresolved, (∀ request, request ∈ unresolved
          ↔ project.Lacks start.files start.index request)
      ∧ ran.console.output = (ran.console.report.unresolved .error unresolved).text
      ∧ ∀ request, project.Lacks start.files start.index request →
        Report.Reached unresolved request → ∃ width front back, ran.console.output
          = front ++ (ran.console.report.phrase .error width request).text ++ back := by
  have hlacks := mem_unresolved_iff_lacks hfeed hfailures
  refine ⟨feed.unresolved, hlacks, houtput, fun request hrequest hreached => ?_⟩
  obtain ⟨front, back, htext, -⟩ := ran.console.report.exists_text_of_reached .error
    ((hlacks request).2 hrequest) hreached
  exact ⟨_, front, back, houtput.trans htext⟩

end Told

/-- Whichever way a production build goes, it writes everything or nothing. -/
theorem allOrNothing_of_produced (hconsole : console.output = "")
    (h : Produced project start directory console (found, after, desk)) :
    AllOrNothing project start.index directory start.files
      ⟨found.mapError .work, after.files, desk.console⟩ := by
  constructor
  case nothing =>
    rintro ⟨file, hmem, hobstructs⟩
    cases h with
    | stopped => exact ⟨.inl ⟨_, rfl⟩, rfl⟩
    | failed => exact ⟨.inr (.inl rfl), rfl⟩
    | aborted => exact ⟨.inr (.inl rfl), rfl⟩
    | broken hfeed hfailures _ hfar =>
      obtain ⟨request, hmem, hfar⟩ := List.any_eq_true.1 hfar
      have hlacks := (mem_unresolved_iff_lacks hfeed hfailures request).1 hmem
      exact ⟨.inr (.inr ⟨rfl, request, hlacks, hfar⟩), rfl⟩
    | finished hfeed hfailures hunresolved =>
      exact absurd hobstructs (hfeed.done_iff.1 ⟨hfailures, hunresolved⟩ file hmem)
  case all =>
    intro hnone
    cases h with
    | stopped hmem hproblem =>
      refine absurd (Project.obstructs_iff.2 ?_) (hnone _ hmem)
      rintro ⟨rewriting, hrewrite, -⟩
      rw [hproblem] at hrewrite
      cases hrewrite
    | failed hfeed hfailures => exact absurd (hfeed.done_iff.2 hnone).1 hfailures
    | aborted hfeed _ hunresolved => exact absurd (hfeed.done_iff.2 hnone).2 hunresolved
    | broken hfeed _ hunresolved => exact absurd (hfeed.done_iff.2 hnone).2 hunresolved
    | @finished feed _ _ _ hfeed hfailures hunresolved hfinish =>
      have hunits : ∀ file ∈ project.searched start.files, ∃ rewriting,
          project.rewriteFile start.files start.index file = .ok rewriting :=
        hfeed.failures_eq_nil_iff.1 hfailures
      refine ⟨feed.outputs, fun _ _ => hfeed.get?_eq_some_iff, fun file hmem => ?_,
        fun written hwrites => ?_⟩
      · obtain ⟨rewriting, hrewrite⟩ := hunits file hmem
        rw [hfeed.get?_eq_some_iff.2 ⟨hmem, hrewrite⟩]
        rfl
      · have hrun := @runOn_finish_of_writes directory (feedingSession start)
          ⟨feedingConsole project start console, feed⟩ written hwrites
        rw [hrun] at hfinish
        cases hfinish
        exact ⟨rfl, rfl, fun file rewriting houtput =>
          built_of_writes hfeed hunresolved hwrites houtput⟩
  case told =>
    rintro hall ⟨lacking, hlacks⟩
    cases h with
    | stopped hmem hproblem =>
      obtain ⟨rewriting, hrewrite⟩ := hall _ hmem
      rw [hproblem] at hrewrite
      cases hrewrite
    | failed hfeed hfailures => exact absurd (hfeed.failures_eq_nil_iff.2 hall) hfailures
    | @aborted feed hfeed hfailures _ hnear =>
      have hlacks := mem_unresolved_iff_lacks hfeed hfailures
      refine ⟨.inl ⟨fun request hrequest => ?_, rfl⟩, told_of_output hfeed hfailures ?_⟩
      · exact Bool.eq_false_iff.2
          (List.any_eq_false.1 hnear request ((hlacks request).2 hrequest))
      · exact (output_print_feedingConsole project start hconsole _).trans
          (by dsimp only [Console.complain]; rw [Console.report_print])
    | @broken feed hfeed hfailures _ hfar =>
      have hlacks := mem_unresolved_iff_lacks hfeed hfailures
      obtain ⟨request, hmem, hfar⟩ := List.any_eq_true.1 hfar
      refine ⟨.inr ⟨⟨request, (hlacks request).1 hmem, hfar⟩, rfl⟩,
        told_of_output hfeed hfailures ?_⟩
      exact (output_print_feedingConsole project start hconsole _).trans (by rw [Console.report_print])
    | finished hfeed _ hunresolved =>
      have hmem := hfeed.mem_unresolved.2 ((Project.lacks_iff hall).1 hlacks)
      rw [hunresolved] at hmem
      cases hmem
  case locales =>
    cases h with
    | stopped => exact fun _ _ => rfl
    | failed => exact fun _ _ => rfl
    | aborted => exact fun _ _ => rfl
    | broken => exact fun _ _ => rfl
    | finished hfeed _ _ hfinish =>
      refine (spares_of_finish (fun output hmem => ?_) hfinish).fileAt?
      obtain ⟨hsearched, hrewrite⟩ := hfeed.get?_eq_some_iff.1 (Dictionary.mem_toList.1 hmem)
      obtain ⟨unit, hpath, hread, -⟩ := Project.rewriteFile_eq_ok_iff.1 hrewrite
      exact ⟨unit, hpath, hpath ▸ hsearched, hread⟩

end Main

/-- The options tell a project with valid settings, whose source file holds a catalog. -/
structure Opens (options : CommonOptions) (files : FileTree) (project : Project)
    (source : Catalog) : Prop where
  settings : ∃ found, Settings.load files (options.root?.getD files.workingPath) = .ok found
    ∧ (Opened.settingsFor options found).validate = .ok project.settings
    ∧ project.root = options.root?.getD found.root
  source : project.locales.Holds project.locales.sourceLanguage files source

/-- Work on a project with valid settings is opened. -/
theorem ofFound_production {options : CommonOptions} {surroundings : Surroundings}
    {found : Settings.Found} {settings : Settings} {start : Session}
    (hvalid : (Opened.settingsFor options found).validate = .ok settings)
    (hstart : (⟨settings, options.root?.getD found.root⟩ : Project).start surroundings.files
      = .ok start) :
    Opened.ofFound options .production surroundings found
      = .ok ⟨⟨settings, options.root?.getD found.root⟩, fun _ => ⟨0, .error .unreachable⟩, start,
        Opened.consoleFor options found surroundings.colored⟩ := by
  unfold Opened.ofFound Opened.translatorFor
  simp only [hvalid, hstart, bind, Except.bind, pure, Except.pure]

/-- **A production build writes everything or nothing.** What it does depends on no answer to a
request. -/
theorem allOrNothing_of_run {options : CommonOptions} {surroundings : Surroundings}
    {project : Project} {source : Catalog}
    (h : Opens options surroundings.files project source) (directory : String) :
    AllOrNothing project (project.indexOf source) directory surroundings.files
        (run options .production (some directory) surroundings)
      ∧ ∀ environment exchange,
        run options .production (some directory) { surroundings with environment, exchange }
          = run options .production (some directory) surroundings := by
  refine ⟨?_, fun _ _ => rfl⟩
  obtain ⟨⟨found, hload, hvalid, hroot⟩, hsource⟩ := h
  obtain ⟨start, hstart, hindex⟩ := Project.exists_start hsource
  obtain ⟨hfiles, -⟩ := Project.eq_of_start hstart
  have hproject : (⟨project.settings, options.root?.getD found.root⟩ : Project) = project := by
    rw [← hroot]
  have hopened : Opened.ofOptions options .production surroundings
      = .ok ⟨project, fun _ => ⟨0, .error .unreachable⟩, start,
        Opened.consoleFor options found surroundings.colored⟩ := by
    unfold Opened.ofOptions
    dsimp only
    rw [hload]
    dsimp only
    rw [ofFound_production hvalid (hproject.symm ▸ hstart), hproject]
    rfl
  have hproduced := produced_of_action project (fun _ => ⟨0, .error .unreachable⟩) start directory
    (Opened.consoleFor options found surroundings.colored)
  have hconsole : (Opened.consoleFor options found surroundings.colored).output = "" := by
    unfold Opened.consoleFor
    dsimp only
    split
    · rfl
    · exact Console.output_notice _ _
  rcases hrun : runOn (action project .production (fun _ => ⟨0, .error .unreachable⟩)
    (some directory)) start
    ⟨Opened.consoleFor options found surroundings.colored, Feed.empty⟩ with ⟨ended, after, desk⟩
  rw [hrun] at hproduced
  have hall := allOrNothing_of_produced hconsole hproduced
  rw [hindex, hfiles] at hall
  unfold run
  rw [hopened]
  dsimp only
  unfold Opened.run
  dsimp only
  rw [hrun]
  exact hall

/-- Options that name the root of the small project. -/
def smallOptions : CommonOptions := ⟨some "/p", none, false⟩

/-- The settings file of the small project. -/
def smallSettingsText : String :=
  "\x7b\"localePath\":\"locales\",\"namespaces\":[\"default\"],\"parser\":\"text\"\x7d"

/-- Surroundings of the small project, in which the phrase of a key is known, with its settings. -/
def smallSurroundings (phrase : String) : Surroundings where
  files := (Project.smallStart [("/p/.transmarkrc.json",
      .file (.text smallSettingsText) 0), ("/p/locales", .directory),
    ("/p/locales/zh.json", .file (.text (Project.smallCatalog "hello" phrase).text) 0)]).files
  environment _ := none
  exchange _ := none
  colored := false

/-- The small project is built when its phrase is known, and is not when it is unknown. -/
theorem allOrNothing_small_of_run :
    (run smallOptions .production (some "dist") (smallSurroundings "你好")).result = .ok .success
      ∧ (run smallOptions .production (some "dist") (smallSurroundings "你好")).files.readText
        "dist/src/app.ts" = .ok "i18n.t('hello')"
      ∧ AllOrNothing Project.small (Project.small.indexOf (Project.smallCatalog "hello" "你好"))
        "dist" (smallSurroundings "你好").files
        (run smallOptions .production (some "dist") (smallSurroundings "你好"))
      ∧ (run smallOptions .production (some "dist") (smallSurroundings "再见")).result = .ok .error
      ∧ AllOrNothing Project.small (Project.small.indexOf (Project.smallCatalog "hello" "再见"))
        "dist" (smallSurroundings "再见").files
        (run smallOptions .production (some "dist") (smallSurroundings "再见")) := by
  have hknown : Opens smallOptions (smallSurroundings "你好").files Project.small
      (Project.smallCatalog "hello" "你好") :=
    ⟨⟨⟨Project.small.settings, "/p", true⟩, by decide +kernel, by decide +kernel, rfl⟩,
      by decide +kernel⟩
  have hunknown : Opens smallOptions (smallSurroundings "再见").files Project.small
      (Project.smallCatalog "hello" "再见") :=
    ⟨⟨⟨Project.small.settings, "/p", true⟩, by decide +kernel, by decide +kernel, rfl⟩,
      by decide +kernel⟩
  exact ⟨toOption_eq_some_iff.1 (by decide +kernel), by decide +kernel,
    (allOrNothing_of_run hknown "dist").1, toOption_eq_some_iff.1 (by decide +kernel),
    (allOrNothing_of_run hunknown "dist").1⟩

/-! ## Byte order marks -/

/-- A project whose calls are found in syntax trees. -/
def parsed : Project :=
  { Project.small with settings := { Project.small.settings with source := .tree } }

/-- Its one source file, which begins with a byte order mark. -/
def parsedUnit : SourceUnit := ⟨"src/app.ts", "\ufeff/*你*/i18n.s('你好')"⟩

/-- Its files. -/
def parsedFiles : FileTree :=
  ⟨Dictionary.ofList [("/p", .directory), ("/p/src", .directory),
    ("/p/src/app.ts", .file (.text parsedUnit.code) 0), ("/p/locales", .directory),
    ("/p/locales/zh.json", .file (.text (Project.smallCatalog "hello" "你好").text) 0)], [], 1, []⟩

/-- The session in which work on it starts. -/
def parsedStart : Session :=
  ⟨parsedFiles, parsed.indexOf (Project.smallCatalog "hello" "你好"), Pending.empty, 0, 0,
    Ticker.start 0 5000, []⟩

/-- **A successful production build may leave marker calls.** Offsets in a script do not count a
byte order mark, but are taken as offsets in the whole file, where one may lie inside a
character. -/
theorem not_replaced_of_run :
    ¬∀ (project : Project) (files : FileTree) (start : Session) (directory : String)
      (console : Console) (translator : Translator),
      project.settings.validate = .ok project.settings → project.start files = .ok start →
      (runOn (action project .production translator (some directory)) start
        ⟨console, Feed.empty⟩).1 = .ok .success →
      ∀ unit, unit.path ∈ project.searched files → project.scope.Reads files unit →
        project.rules.isVendored unit.path = false →
        ∀ calls, project.rules.find unit = .ok calls →
        ∀ rewriting, project.rewriteFile files start.index unit.path = .ok rewriting →
          rewriting.replaced = calls.length := by
  intro hall
  have hfind : (parsed.rules.find parsedUnit).toOption.map List.length = some 1 := by
    decide +kernel
  obtain ⟨calls, hcalls, hlength⟩ := Option.map_eq_some_iff.1 hfind
  have hrewrite : parsed.rewriteFile parsedFiles parsedStart.index parsedUnit.path
      = .ok ⟨parsedUnit.code, 0, []⟩ := toOption_eq_some_iff.1 (by decide +kernel)
  have hreplaced := hall parsed parsedFiles parsedStart "dist" (Console.start false false)
    Project.smallTranslator (by decide +kernel) (by decide +kernel)
    (toOption_eq_some_iff.1 (by decide +kernel)) parsedUnit (by decide +kernel)
    (by unfold SourceScope.Reads; decide +kernel) (by decide +kernel) calls
    (toOption_eq_some_iff.1 hcalls) _ hrewrite
  rw [hlength] at hreplaced
  cases hreplaced

end Build

end Phrasebook
