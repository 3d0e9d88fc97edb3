import Phrasebook.Proofs.GrowingTrees
import Phrasebook.Proofs.WatchSteps

/-!
# A watch forgets nothing

After its first look and after every successful tick, the outputs of a watch are all up to date:
each is what the current index makes of its file as it is now, and what is unresolved in it is
pending, so that the next flush takes it up. Only changed and affected files are fed on a tick. All
others rest on an invariant (`Watch.Coherent`) that looking around, a flush and writing keep, as
long as nothing is written over a source file.

Results:
* `Watch.coherent_of_looksAround`, `Watch.coherent_of_flush`, `Watch.coherent_of_writes`: what the
  parts of a pass keep.
* `Watch.coherent_of_watches`: what a whole watch keeps.
* `Watch.upToDate_of_watches`: the outputs of a watch are up to date.
* `Watch.not_upToDate_of_begin`: without the condition on written files they need not be.
-/

namespace Phrasebook

/-! ## What does not move -/

namespace Project

variable {project : Project} {session : Session}

/-- An index without keys is as good as the one of a source file that nobody can read. -/
theorem grounded_of_source {files : FileTree} (h : project.Grounded session)
    (hdirectory : files.workingDirectory = session.files.workingDirectory)
    (hsource : ∀ text,
      session.files.readText (project.locales.pathOf project.locales.sourceLanguage) = .ok text →
      files.readText (project.locales.pathOf project.locales.sourceLanguage) = .ok text) :
    project.Grounded { session with files } := by
  refine ⟨?_, h.pending, ?_⟩
  · rcases h.index with current | hblank
    · obtain ⟨source, hholds, hindex⟩ := isCurrent_iff.1 current
      cases hread : session.files.readText
          (project.locales.pathOf project.locales.sourceLanguage) with
      | ok text =>
        exact .inl (isCurrent_iff.2
          ⟨source, hholds.of_readText_eq ((hsource text hread).trans hread.symm), hindex⟩)
      | error fault =>
        rw [Locales.holds_iff, hread] at hholds
        have hempty : source = Catalog.empty := by
          cases fault <;> cases hholds
          rfl
        refine .inr fun ns phrase => ?_
        show session.index.lookup? ns phrase = none
        rw [hindex, hempty]
        rfl
    · exact .inr hblank
  · show project.locales.Apart files.workingDirectory
    rw [hdirectory]
    exact h.apart

/-- Only files, index and pending phrases matter. -/
theorem grounded_of_agrees {other : Session} (h : project.Grounded session)
    (hagrees : other.Agrees session) : project.Grounded other := by
  refine ⟨?_, fun hmem => ?_, ?_⟩
  · unfold IsCurrent
    rw [hagrees.files, hagrees.index]
    exact h.index
  · rw [hagrees.pending] at hmem
    rw [hagrees.index]
    exact h.pending hmem
  · rw [hagrees.files]
    exact h.apart

theorem grounded_of_requested {after : Session} (h : project.Grounded session)
    (hrequested : Requested session after) : project.Grounded after := by
  refine ⟨?_, fun hmem => ?_, ?_⟩
  · unfold IsCurrent
    rw [hrequested.files, hrequested.index]
    exact h.index
  · rw [hrequested.index]
    exact (hrequested.pending hmem).elim h.pending id
  · rw [hrequested.files]
    exact h.apart

end Project

namespace Watch

open HostAction Desk

variable {project : Project} {translator : Translator} {outDirectory? : Option String}
  {before after : Session} {watch watchAfter : Watch} {feed feedAfter : Feed}
  {stamps : Dictionary Nat} {file : String}

/-! ## The invariant -/

/-- The invariant of a watch between its passes. -/
structure Coherent (project : Project) (session : Session) (feed : Feed)
    (stamps : Dictionary Nat) : Prop where
  grounded : project.Grounded session
  upToDate : ∀ file, project.UpToDate session feed file
  /-- Files with an output were looked at. -/
  outputs : ∀ file, (feed.outputs.get? file).isSome → file ∈ stamps.keys
  /-- Files with pending phrases were looked at. -/
  asking : ∀ file ∈ session.pending.files.keys, file ∈ stamps.keys
  /-- What was looked at is a source file. -/
  sources : ∀ file ∈ stamps.keys, file ∈ project.searched session.files
  /-- What was looked at is a text, and was not written since. -/
  seen : ∀ file stamp, stamps.get? file = some stamp → ∃ text,
    session.files.entry? (project.scope.resolve file) = some (.file (.text text) stamp)

/-- What is left of the invariant when files were edited: what was not written is up to date. -/
structure Ready (project : Project) (session : Session) (feed : Feed) (stamps : Dictionary Nat) :
    Prop where
  grounded : project.Grounded session
  upToDate : ∀ file, session.files.stamp? (project.scope.resolve file) = stamps.get? file →
    project.UpToDate session feed file
  outputs : ∀ file, (feed.outputs.get? file).isSome → file ∈ stamps.keys
  asking : ∀ file ∈ session.pending.files.keys, file ∈ stamps.keys
  sources : ∀ file ∈ stamps.keys, file ∈ project.searched session.files
  /-- What was looked at is a file, and a text unless it was written since. -/
  seen : ∀ file stamp, stamps.get? file = some stamp →
    (session.files.stamp? (project.scope.resolve file)).isSome
      ∧ (session.files.stamp? (project.scope.resolve file) = some stamp → ∃ text,
        session.files.entry? (project.scope.resolve file) = some (.file (.text text) stamp))

/-- A file that was looked at can be read. -/
theorem Coherent.exists_reads (h : Coherent project before feed stamps) (hmem : file ∈ stamps.keys) :
    ∃ unit, unit.path = file ∧ project.scope.Reads before.files unit := by
  obtain ⟨stamp, hstamp⟩ := Option.isSome_iff_exists.1 (Dictionary.mem_keys.1 hmem)
  obtain ⟨text, hentry⟩ := h.seen file stamp hstamp
  exact ⟨⟨file, text⟩, rfl, FileTree.readText_eq_ok_iff_exists_stamp.2 ⟨stamp, hentry⟩⟩

theorem Coherent.congr (h : Coherent project before feed stamps) (hagrees : after.Agrees before) :
    Coherent project after feed stamps := by
  refine ⟨Project.grounded_of_agrees h.grounded hagrees,
    fun file => (h.upToDate file).congr hagrees, h.outputs, ?_, ?_, ?_⟩
  · rw [hagrees.pending]
    exact h.asking
  · rw [hagrees.files]
    exact h.sources
  · rw [hagrees.files]
    exact h.seen

theorem Ready.congr (h : Ready project before feed stamps) (hagrees : after.Agrees before) :
    Ready project after feed stamps := by
  refine ⟨Project.grounded_of_agrees h.grounded hagrees, fun file hsame => ?_, h.outputs, ?_, ?_, ?_⟩
  · rw [hagrees.files] at hsame
    exact (h.upToDate file hsame).congr hagrees
  · rw [hagrees.pending]
    exact h.asking
  · rw [hagrees.files]
    exact h.sources
  · rw [hagrees.files]
    exact h.seen

end Watch

/-! ## Edits -/

/-- Files were edited by others: sources may be new or written, with another stamp then, but are not
taken away, and the source file of the locales is left alone if it can be read. -/
structure Project.Edited (project : Project) (before after : FileTree) : Prop where
  workingDirectory : after.workingDirectory = before.workingDirectory
  locale : ∀ text,
    before.readText (project.locales.pathOf project.locales.sourceLanguage) = .ok text →
    after.readText (project.locales.pathOf project.locales.sourceLanguage) = .ok text
  sources : ∀ file ∈ project.searched before, file ∈ project.searched after
  kept : ∀ file ∈ project.searched before,
    (before.stamp? (project.scope.resolve file)).isSome →
    (after.stamp? (project.scope.resolve file)).isSome
  stamped : ∀ file ∈ project.searched before,
    after.stamp? (project.scope.resolve file) = before.stamp? (project.scope.resolve file) →
    after.readText (project.scope.resolve file) = before.readText (project.scope.resolve file)

namespace Watch

open HostAction Desk

variable {project : Project} {translator : Translator} {outDirectory? : Option String}
  {before after : Session} {watch watchAfter : Watch} {feed feedAfter : Feed}
  {stamps : Dictionary Nat} {file : String}

theorem stamp?_eq_some {tree : FileTree} {path : String} {content : FileContent} {stamp : Nat}
    (h : tree.entry? path = some (.file content stamp)) : tree.stamp? path = some stamp := by
  unfold FileTree.stamp?
  rw [h]

/-- **Edits leave up to date what was not written.** -/
theorem ready_of_edited {files : FileTree} (h : Coherent project before feed stamps)
    (hedited : project.Edited before.files files) :
    Ready project { before with files } feed stamps := by
  have hseen : ∀ file stamp, stamps.get? file = some stamp →
      files.stamp? (project.scope.resolve file) = some stamp → ∃ text,
        before.files.readText (project.scope.resolve file) = .ok text
          ∧ files.readText (project.scope.resolve file) = .ok text := by
    intro file stamp hstamp hsame
    obtain ⟨text, hentry⟩ := h.seen file stamp hstamp
    have hmem : file ∈ stamps.keys := Dictionary.mem_keys.2 (by rw [hstamp]; rfl)
    have hread := FileTree.readText_eq_ok_iff_exists_stamp.2 ⟨stamp, hentry⟩
    refine ⟨text, hread, ?_⟩
    rw [hedited.stamped file (h.sources file hmem) (hsame.trans (stamp?_eq_some hentry).symm)]
    exact hread
  refine ⟨Project.grounded_of_source h.grounded hedited.workingDirectory hedited.locale,
    fun file hsame => ?_, h.outputs, h.asking,
    fun file hmem => hedited.sources file (h.sources file hmem), fun file stamp hstamp => ⟨?_, ?_⟩⟩
  · intro rewriting hrewriting
    obtain ⟨unit, rfl, hread, hrest⟩ := h.upToDate file rewriting hrewriting
    have hmem := h.outputs unit.path (by rw [hrewriting]; rfl)
    obtain ⟨stamp, hstamp⟩ := Option.isSome_iff_exists.1 (Dictionary.mem_keys.1 hmem)
    obtain ⟨text, hbefore, hafter⟩ := hseen unit.path stamp hstamp (hsame.trans hstamp)
    refine ⟨unit, rfl, ?_, hrest⟩
    unfold SourceScope.Reads at hread ⊢
    rw [hbefore] at hread
    exact hafter.trans hread
  · obtain ⟨text, hentry⟩ := h.seen file stamp hstamp
    have hmem : file ∈ stamps.keys := Dictionary.mem_keys.2 (by rw [hstamp]; rfl)
    refine hedited.kept file (h.sources file hmem) ?_
    rw [stamp?_eq_some hentry]
    rfl
  · intro hsame
    obtain ⟨text, -, hread⟩ := hseen file stamp hstamp hsame
    obtain ⟨found, hentry⟩ := FileTree.readText_eq_ok_iff_exists_stamp.1 hread
    have hfound := stamp?_eq_some hentry
    rw [show files.stamp? _ = some stamp from hsame] at hfound
    cases hfound
    exact ⟨text, hentry⟩

/-! ## Looking around -/

/-- A file is source text with the stamp it was looked at with. -/
theorem Ready.seen_of_lookAt (h : Ready project before feed stamps)
    (hread : ∀ file ∈ (lookAt project.scope before.files stamps
        (project.searched before.files)).1,
      ∃ unit, unit.path = file ∧ project.scope.Reads before.files unit) {stamp : Nat}
    (hstamp : (lookAt project.scope before.files stamps
      (project.searched before.files)).2.get? file = some stamp) :
    file ∈ project.searched before.files ∧ ∃ text,
      before.files.entry? (project.scope.resolve file) = some (.file (.text text) stamp) := by
  rw [get?_lookAt] at hstamp
  split at hstamp
  · next hmem =>
    refine ⟨hmem, ?_⟩
    cases hnow : before.files.stamp? (project.scope.resolve file) with
    | none =>
      rw [hnow, Option.none_or] at hstamp
      have hsome := (h.seen file stamp hstamp).1
      rw [hnow] at hsome
      cases hsome
    | some now =>
      rw [hnow, Option.some_or] at hstamp
      cases hstamp
      by_cases hknown : stamps.get? file = some stamp
      · exact (h.seen file stamp hknown).2 hnow
      · obtain ⟨unit, rfl, hunit⟩ := hread file (mem_lookAt.2 ⟨hmem, stamp, hnow, hknown⟩)
        obtain ⟨found, hentry⟩ := FileTree.readText_eq_ok_iff_exists_stamp.1 hunit
        have hfound := stamp?_eq_some hentry
        rw [hnow] at hfound
        cases hfound
        exact ⟨unit.code, hentry⟩
  · cases hstamp

/-- A file that was looked at before still is. -/
theorem Ready.mem_keys_lookAt (h : Ready project before feed stamps) (hmem : file ∈ stamps.keys) :
    file ∈ (lookAt project.scope before.files stamps (project.searched before.files)).2.keys := by
  rw [Dictionary.mem_keys, get?_lookAt, if_pos (h.sources file hmem), Option.isSome_or,
    Dictionary.mem_keys.1 hmem, Bool.or_true]

/-- A file with a new stamp was looked at. -/
theorem mem_keys_lookAt {scope : SourceScope} {tree : FileTree} {files : List String}
    (hmem : file ∈ (lookAt scope tree stamps files).1) :
    file ∈ (lookAt scope tree stamps files).2.keys := by
  obtain ⟨hfile, stamp, hstamp, -⟩ := mem_lookAt.1 hmem
  rw [Dictionary.mem_keys, get?_lookAt, if_pos hfile, hstamp]
  rfl

/-- **Looking around brings everything up to date again.** What was looked at are source files. -/
theorem coherent_of_looksAround (h : Ready project before watch.feed watch.stamps)
    (hlook : LooksAround project before watch after watchAfter) :
    Coherent project after watchAfter.feed watchAfter.stamps
      ∧ after.files = before.files
      ∧ ∀ file ∈ watchAfter.stamps.keys, file ∈ project.searched before.files := by
  obtain ⟨looked, hagrees, hfed⟩ := hlook.fed
  have hrequested := hfed.requested
  have hfiles : after.files = before.files := hrequested.files.trans hagrees.files
  have hread : ∀ file ∈ (lookAt project.scope before.files watch.stamps
      (project.searched before.files)).1,
      ∃ unit, unit.path = file ∧ project.scope.Reads before.files unit := by
    intro file hmem
    rw [← hagrees.files]
    exact hfed.exists_reads hmem
  have hsearched : ∀ file ∈ watchAfter.stamps.keys, file ∈ project.searched before.files := by
    intro file hmem
    obtain ⟨stamp, hstamp⟩ := Option.isSome_iff_exists.1 (Dictionary.mem_keys.1 hmem)
    rw [hlook.stamps] at hstamp
    exact (h.seen_of_lookAt hread hstamp).1
  -- The outputs that are kept were there before.
  have hretained : ∀ file rewriting,
      (watch.feed.retain fun file => before.files.contains (project.scope.resolve file)).outputs.get?
        file = some rewriting → watch.feed.outputs.get? file = some rewriting := by
    intro file rewriting hrewriting
    rw [Feed.get?_outputs_retain, Option.ite_none_right_eq_some] at hrewriting
    exact hrewriting.2
  refine ⟨⟨?_, ?_, ?_, ?_, ?_, ?_⟩, hfiles, hsearched⟩
  · exact Project.grounded_of_requested (Project.grounded_of_agrees h.grounded hagrees) hrequested
  · refine fun file => hfed.upToDate fun hunchanged rewriting hrewriting => ?_
    have hold := hretained file rewriting hrewriting
    have hmem := h.outputs file (by rw [hold]; rfl)
    obtain ⟨stamp, hstamp⟩ := Option.isSome_iff_exists.1 (Dictionary.mem_keys.1 hmem)
    -- The file is not among the changed ones, so it has the stamp it had.
    obtain ⟨now, hnow⟩ := Option.isSome_iff_exists.1 (h.seen file stamp hstamp).1
    have hsame : watch.stamps.get? file = some now := by
      by_contra hne
      exact hunchanged (mem_lookAt.2 ⟨h.sources file hmem, now, hnow, hne⟩)
    have hfile := h.upToDate file (hnow.trans hsame.symm) rewriting hold
    rw [hagrees.files, hagrees.index, hagrees.pending]
    exact hfile
  · intro file hmem
    rw [hlook.stamps]
    rcases hfed.outputs_subset hmem with hkept | hchanged
    · obtain ⟨rewriting, hrewriting⟩ := Option.isSome_iff_exists.1 hkept
      exact h.mem_keys_lookAt (h.outputs file (by rw [hretained file rewriting hrewriting]; rfl))
    · exact mem_keys_lookAt hchanged
  · intro file hmem
    rw [hlook.stamps]
    rcases hfed.files_subset hmem with hold | hchanged
    · rw [hagrees.pending] at hold
      exact h.mem_keys_lookAt (h.asking file hold)
    · exact mem_keys_lookAt hchanged
  · rw [hfiles]
    exact hsearched
  · intro file stamp hstamp
    rw [hlook.stamps] at hstamp
    rw [hfiles]
    exact (h.seen_of_lookAt hread hstamp).2

/-! ## Writing -/

/-- No output below the directory would be written over a source file. -/
def Outside (project : Project) (outDirectory? : Option String) (files : FileTree) : Prop :=
  ∀ directory ∈ outDirectory?,
    ∀ file ∈ project.searched files, ∀ source ∈ project.searched files,
      FileTree.keyOf (FileTree.placeOf files.workingDirectory (Path.join directory file))
        ≠ FileTree.keyOf (FileTree.placeOf files.workingDirectory (project.scope.resolve source))

instance (project : Project) (outDirectory? : Option String) (files : FileTree) :
    Decidable (Outside project outDirectory? files) :=
  inferInstanceAs (Decidable (∀ directory ∈ outDirectory?, ∀ file ∈ project.searched files,
    ∀ source ∈ project.searched files, _ ≠ _))

/-- What a change of files leaves coherent: the tree grows, sources and locales stay. -/
theorem coherent_of_grows {files : FileTree} (h : Coherent project before feed stamps)
    (hgrows : before.files.Grows files)
    (hsources : ∀ file ∈ stamps.keys, ∀ entry,
      before.files.entry? (project.scope.resolve file) = some entry →
      files.entry? (project.scope.resolve file) = some entry)
    (hlocale : ∀ text,
      before.files.readText (project.locales.pathOf project.locales.sourceLanguage) = .ok text →
      files.readText (project.locales.pathOf project.locales.sourceLanguage) = .ok text) :
    Coherent project { before with files } feed stamps := by
  refine ⟨Project.grounded_of_source h.grounded hgrows.workingDirectory hlocale,
    fun file rewriting hrewriting => ?_, h.outputs, h.asking,
    fun file hmem => SourceScope.mem_files_of_grows hgrows (h.sources file hmem),
    fun file stamp hstamp => ?_⟩
  · obtain ⟨unit, rfl, hread, hrest⟩ := h.upToDate file rewriting hrewriting
    obtain ⟨stamp, hentry⟩ := FileTree.readText_eq_ok_iff_exists_stamp.1 hread
    have hmem := h.outputs unit.path (by rw [hrewriting]; rfl)
    exact ⟨unit, rfl,
      FileTree.readText_eq_ok_iff_exists_stamp.2 ⟨stamp, hsources unit.path hmem _ hentry⟩, hrest⟩
  · obtain ⟨text, hentry⟩ := h.seen file stamp hstamp
    exact ⟨text, hsources file (Dictionary.mem_keys.2 (by rw [hstamp]; rfl)) _ hentry⟩

/-- **Writing outputs leaves everything up to date**, if it writes over no source file. -/
theorem coherent_of_writes {files : FileTree} (h : Coherent project before feed stamps)
    (hdirectory : before.files.workingDirectory = files.workingDirectory)
    (hseen : ∀ file ∈ stamps.keys, file ∈ project.searched files)
    (outside : Outside project outDirectory? files)
    (hwrite : Writes outDirectory? before feed after) : Coherent project after feed stamps := by
  cases hwrite with
  | nothing => exact h
  | @outputs directory outputs _ _ _ houtDirectory hsubset hwrite =>
    have hlooked : ∀ output ∈ outputs, output.1 ∈ stamps.keys := fun output hmem =>
      h.outputs output.1 (by rw [Dictionary.mem_toList.1 (hsubset hmem)]; rfl)
    rw [(eq_of_writeOutputs hwrite).1]
    refine coherent_of_grows h (grows_of_writeOutputs hwrite) (fun file hmem entry hentry => ?_)
      fun text hread => ?_
    · refine entry?_of_writeOutputs hwrite (fun output houtput => ?_) hentry
      rw [hdirectory]
      exact (outside directory houtDirectory output.1 (hseen output.1 (hlooked output houtput))
        file (hseen file hmem)).symm
    · refine readText_of_writeOutputs hwrite (fun output houtput => ?_) hread
      have hmem := hlooked output houtput
      obtain ⟨unit, hpath, hreads⟩ := h.exists_reads hmem
      rw [← hpath] at hmem ⊢
      exact (SourceScope.keyOf_ne_fileKey (h.sources unit.path hmem) hreads _ directory
        project.locales _).symm

/-! ## Flushing -/

section Target

variable (hlanguage : project.settings.keyLanguage = .target)
include hlanguage

/-- **A flush and the affected files again** leave everything up to date. -/
theorem coherent_of_flush {flush : Flush} {flushed told : Session}
    (h : Coherent project before feed stamps)
    (hflush : (project.flush translator).runOn before = (.ok flush, flushed))
    (htold : told.Agrees flushed)
    (hfed : project.FedAll flush.affected.keys told feed after feedAfter) :
    Coherent project after feedAfter stamps
      ∧ after.files.workingDirectory = before.files.workingDirectory := by
  have haffected : flush.affected = before.pending.files :=
    (Project.ended_of_flush hflush).affected_eq
  obtain ⟨hpending, hcases⟩ := Project.flushed_of_flush hflush
  have hentries : ∀ file ∈ stamps.keys, ∀ entry,
      before.files.entry? (project.scope.resolve file) = some entry →
      flushed.files.entry? (project.scope.resolve file) = some entry := by
    intro file hmem entry hentry
    rcases hcases with ⟨-, hfiles, -⟩ | ⟨-, _, hreconciled⟩
    · rw [hfiles]
      exact hentry
    · obtain ⟨unit, rfl, hread⟩ := h.exists_reads hmem
      exact hreconciled.entry?_eq (h.sources unit.path hmem) hread hentry
  have hgrows : before.files.Grows flushed.files := by
    rcases hcases with ⟨-, hfiles, -⟩ | ⟨-, _, hreconciled⟩
    · rw [hfiles]
      exact .refl _
    · exact Reconciliation.grows_of_run hreconciled.files
  have hgrounded : project.Grounded flushed := by
    have hunpended : project.Grounded (Project.unpended before) :=
      ⟨h.grounded.index, fun hmem => absurd hmem Pending.not_mem_pairs_empty, h.grounded.apart⟩
    rcases hcases with ⟨-, hfiles, hindex⟩ | ⟨-, _, hreconciled⟩
    · exact Project.grounded_of_agrees hunpended ⟨hfiles, hindex, hpending⟩
    · exact Project.grounded_of_reconciled hunpended hreconciled hpending
  have hothers : ∀ file, file ∉ flush.affected.keys → project.UpToDate told feed file := by
    intro file hnot rewriting hrewriting
    rw [haffected] at hnot
    have hsearched := h.sources file (h.outputs file (by rw [hrewriting]; rfl))
    have hfile := Project.upToDate_of_flush hlanguage h.grounded hflush hsearched
      (h.upToDate file) hnot rewriting hrewriting
    rw [htold.files, htold.index, htold.pending]
    exact hfile
  have hrequested := hfed.requested
  have hfiles : after.files = flushed.files := hrequested.files.trans htold.files
  have hask : ∀ file ∈ flush.affected.keys, file ∈ stamps.keys := by
    rw [haffected]
    exact h.asking
  refine ⟨⟨?_, fun file => hfed.upToDate (hothers file), fun file hmem => ?_,
    fun file hmem => ?_, ?_, ?_⟩, ?_⟩
  · exact Project.grounded_of_requested (Project.grounded_of_agrees hgrounded htold) hrequested
  · exact (hfed.outputs_subset hmem).elim (h.outputs file) (hask file)
  · refine (hfed.files_subset hmem).elim (fun hold => ?_) (hask file)
    rw [htold.pending, hpending] at hold
    exact absurd hold List.not_mem_nil
  · rw [hfiles]
    exact fun file hmem => SourceScope.mem_files_of_grows hgrows (h.sources file hmem)
  · rw [hfiles]
    intro file stamp hstamp
    obtain ⟨text, hentry⟩ := h.seen file stamp hstamp
    exact ⟨text, hentries file (Dictionary.mem_keys.2 (by rw [hstamp]; rfl)) _ hentry⟩
  · rw [hfiles]
    exact hgrows.workingDirectory

/-- **A successful tick** leaves everything up to date. -/
theorem coherent_of_ticks (h : Ready project before watch.feed watch.stamps)
    (outside : Outside project outDirectory? before.files)
    (hticks : Ticks project translator outDirectory? before watch after watchAfter) :
    Coherent project after watchAfter.feed watchAfter.stamps := by
  obtain ⟨hwoken, hlook, hflush, htold, hfed, hwrite, hafter, hstamps⟩ := hticks
  obtain ⟨hlooked, hfiles, hsearched⟩ := coherent_of_looksAround (h.congr hwoken) hlook
  obtain ⟨hflushed, hdirectory⟩ := coherent_of_flush hlanguage hlooked hflush htold hfed
  rw [hwoken.files] at hfiles hsearched
  rw [hfiles] at hdirectory
  rw [hstamps]
  exact (coherent_of_writes hflushed hdirectory hsearched outside hwrite).congr hafter

end Target

/-- A watch that has not begun is ready. -/
theorem ready_of_start {files : FileTree} {start : Session} {console : Console}
    (hstart : project.start files = .ok start)
    (apart : project.locales.Apart files.workingDirectory) :
    Ready project start (Watch.start console).feed (Watch.start console).stamps := by
  obtain ⟨rfl, hpending, current⟩ := Project.eq_of_start hstart
  refine ⟨⟨.inl current, fun hmem => ?_, apart⟩, fun file _ => ?_, nofun, fun file hmem => ?_, nofun,
    nofun⟩
  · rw [hpending] at hmem
    exact absurd hmem Pending.not_mem_pairs_empty
  · exact Project.upToDate_of_get?_eq_none rfl
  · rw [hpending] at hmem
    exact absurd hmem List.not_mem_nil

/-- **The first look** brings everything up to date. -/
theorem coherent_of_begin (h : Ready project before watch.feed watch.stamps)
    (outside : Outside project outDirectory? before.files)
    (hbegin : runOn (begin project outDirectory?) before watch = (.ok (), after, watchAfter)) :
    Coherent project after watchAfter.feed watchAfter.stamps := by
  unfold begin at hbegin
  obtain ⟨_, looked, watchLooked, hlook, hwrite⟩ := exists_of_runOn_bind hbegin
  obtain ⟨hlooked, hfiles, hsearched⟩ :=
    coherent_of_looksAround h (looksAround_of_lookAround hlook)
  obtain ⟨hfeed, hstamps, hwrites⟩ := writes_of_writeTouched hwrite
  rw [hfeed, hstamps]
  exact coherent_of_writes hlooked (by rw [hfiles]) hsearched outside hwrites

/-! ## Watches -/

/-- A watch whose files are edited between its passes: a first look, and then successful ticks, each
with its own translator. At each pass no output would be written over a source file. -/
inductive Watches (project : Project) (outDirectory? : Option String) (files : FileTree) :
    Session → Watch → Prop
  | begun {console : Console} {start after : Session} {watchAfter : Watch}
      (hstart : project.start files = .ok start)
      (outside : Outside project outDirectory? files)
      (h : runOn (begin project outDirectory?) start (Watch.start console)
        = (.ok (), after, watchAfter)) : Watches project outDirectory? files after watchAfter
  | ticked {translator : Translator} {before after : Session} {edited : FileTree}
      {watch watchAfter : Watch} (hbefore : Watches project outDirectory? files before watch)
      (hedited : project.Edited before.files edited)
      (outside : Outside project outDirectory? edited)
      (h : runOn (tick project translator outDirectory?) { before with files := edited } watch
        = (.ok (), after, watchAfter)) : Watches project outDirectory? files after watchAfter

/-- **What a whole watch keeps.** -/
theorem coherent_of_watches (hlanguage : project.settings.keyLanguage = .target) {files : FileTree}
    (apart : project.locales.Apart files.workingDirectory)
    (h : Watches project outDirectory? files after watchAfter) :
    Coherent project after watchAfter.feed watchAfter.stamps := by
  induction h with
  | begun hstart outside hbegin =>
    refine coherent_of_begin (ready_of_start hstart apart) ?_ hbegin
    rw [(Project.eq_of_start hstart).1]
    exact outside
  | ticked _ hedited outside htick ih =>
    exact coherent_of_ticks hlanguage (ready_of_edited ih hedited) outside (ticks_of_tick htick)

/-- **The outputs of a watch are up to date** after its first look and after every successful tick:
each is what the current index makes of its file as it is now, and what is unresolved in it is
pending, for this file. -/
theorem upToDate_of_watches (hlanguage : project.settings.keyLanguage = .target) {files : FileTree}
    (apart : project.locales.Apart files.workingDirectory)
    (h : Watches project outDirectory? files after watchAfter) (file : String) :
    project.UpToDate after watchAfter.feed file :=
  (coherent_of_watches hlanguage apart h).upToDate file

/-- The small project after the first look of a watch. -/
def smallBegun : Session × Watch :=
  (runOn (begin Project.small (some "dist")) (Project.smallStart [])
    (Watch.start (Console.start false false))).2

/-- The files after somebody wrote the source file anew. -/
def smallEdited : FileTree :=
  match smallBegun.1.files.writeDeep "/p/src/app.ts" (.text "i18n.s('你好');") with
  | .ok files => files
  | .error _ => FileTree.empty

/-- The small project after a tick. -/
def smallTicked : Session × Watch :=
  (runOn (tick Project.small Project.smallTranslator (some "dist"))
    { smallBegun.1 with files := smallEdited } smallBegun.2).2

/-- The small project is watched while its file is edited. -/
theorem upToDate_small_of_watches :
    smallTicked.2.feed.outputs.get? "src/app.ts" = some ⟨"i18n.t('hello');", 1, []⟩
      ∧ Project.small.UpToDate smallTicked.1 smallTicked.2.feed "src/app.ts" := by
  obtain ⟨_, hbegin⟩ := HostAction.exists_runOn_eq_ok (begin Project.small (some "dist"))
    (Project.smallStart []) (Watch.start (Console.start false false)) (by decide +kernel)
  obtain ⟨_, htick⟩ := HostAction.exists_runOn_eq_ok
    (tick Project.small Project.smallTranslator (some "dist"))
    { smallBegun.1 with files := smallEdited } smallBegun.2 (by decide +kernel)
  have hunread : smallBegun.1.files.readText
      (Project.small.locales.pathOf Project.small.locales.sourceLanguage)
        = .error .notFound := by decide +kernel
  have hedited : Project.small.Edited smallBegun.1.files smallEdited := by
    refine ⟨by decide +kernel, fun text hread => ?_, by decide +kernel, by decide +kernel,
      by decide +kernel⟩
    rw [hunread] at hread
    cases hread
  have watches : Watches Project.small (some "dist") (Project.smallStart []).files smallTicked.1
      smallTicked.2 :=
    .ticked (.begun Project.start_smallStart (by decide +kernel) hbegin) hedited
      (by decide +kernel) htick
  exact ⟨by decide +kernel, upToDate_of_watches rfl Project.apart_smallStart watches "src/app.ts"⟩

/-! ## Outputs over their sources -/

/-- A project that includes a directory beside its root. -/
def straying : Project :=
  ⟨{ localePath := some "locales", namespaces := ["default"], includes := ["../ext"],
     source := .text }, "/w/sub"⟩

/-- Its files, seen from the directory above the root. -/
def strayingFiles : FileTree :=
  ⟨Dictionary.ofList [("/w", .directory), ("/w/sub", .directory),
      ("/w/sub/locales", .directory),
      ("/w/sub/locales/zh.json", .file (.text (Project.smallCatalog "hello" "你好").text) 0),
      ("/w/ext", .directory), ("/w/ext/app.ts", .file (.text "i18n.s('你好')") 0)], ["w"], 1, []⟩

/-- The session in which work on it starts. -/
def strayingStart : Session :=
  ⟨strayingFiles, straying.indexOf (Project.smallCatalog "hello" "你好"), Pending.empty, 0, 0,
    Ticker.start 0 5000, []⟩

/-- The project after the first look of a watch. -/
def strayingBegun : Session × Watch :=
  (runOn (begin straying (some "dist")) strayingStart (Watch.start (Console.start false false))).2

/-- **A watch may write over its own source.** No source file stands below the output directory. But
the path of the source leads out of it again, so that the first look writes the output over the
source and is not up to date with it. -/
theorem not_upToDate_of_begin :
    straying.start strayingFiles = .ok strayingStart
      ∧ straying.settings.keyLanguage = .target
      ∧ straying.locales.Apart strayingFiles.workingDirectory
      ∧ (∀ source ∈ straying.searched strayingFiles,
        ¬FileTree.placeOf strayingFiles.workingDirectory "dist"
          <+: FileTree.placeOf strayingFiles.workingDirectory (straying.scope.resolve source))
      ∧ (∃ done, runOn (begin straying (some "dist")) strayingStart
          (Watch.start (Console.start false false)) = (.ok done, strayingBegun))
      ∧ ¬straying.UpToDate strayingBegun.1 strayingBegun.2.feed "../ext/app.ts" := by
  refine ⟨by decide +kernel, rfl, by decide +kernel, by decide +kernel,
    HostAction.exists_runOn_eq_ok _ _ _ (by decide +kernel), fun hupToDate => ?_⟩
  have houtput : strayingBegun.2.feed.outputs.get? "../ext/app.ts"
      = some ⟨"i18n.t('hello')", 1, []⟩ := by decide +kernel
  have hwritten : strayingBegun.1.files.readText (straying.scope.resolve "../ext/app.ts")
      = .ok "i18n.t('hello')" := by decide +kernel
  have hagain : straying.rules.rewrite strayingBegun.1.index ⟨"../ext/app.ts", "i18n.t('hello')"⟩
      ≠ .ok ⟨"i18n.t('hello')", 1, []⟩ := by decide +kernel
  obtain ⟨⟨path, code⟩, rfl, hread, hrewrite, -⟩ := hupToDate _ houtput
  unfold SourceScope.Reads at hread
  rw [hwritten] at hread
  cases hread
  exact hagain hrewrite

end Watch

end Phrasebook
