import Phrasebook.Proofs.Feeding
import Phrasebook.Proofs.KeyStability
import Phrasebook.Proofs.RequestAccounting

/-!
# Outputs after a flush

After a flush only the files are fed again that had a phrase without a key. Every other output has
references only, and the phrases behind them are in use, so that the flush leaves their keys alone:
the output would be the same if it were rewritten again.

Results:
* `Project.upToDate_of_reconciled`: a reconciliation leaves outputs up to date that have nothing
  unresolved.
* `Project.upToDate_of_flush`: a flush leaves the outputs up to date of all files that it does not
  report as affected.
-/

namespace Phrasebook.Project

open SessionAction

variable {project : Project} {before after : Session} {feed : Feed} {file : String}
  {outcomes : List Outcome} {reconciliation : Reconciliation}

/-- The index is that of the source file or has no keys at all, nothing that is pending has a key,
and the locale files are different files. -/
structure Grounded (project : Project) (session : Session) : Prop where
  index : project.IsCurrent session ∨ ∀ ns phrase, session.index.lookup? ns phrase = none
  pending : ∀ {phrase ns}, (phrase, ns) ∈ session.pending.pairs →
    session.index.lookup? ns phrase = none
  apart : project.locales.Apart session.files.workingDirectory

theorem grounded_of_settled {session : Session} (h : project.Settled session) :
    project.Grounded session := ⟨.inl h.current, h.pending, h.apart⟩

/-- Work without pending phrases starts with what a reconciliation leaves. -/
theorem grounded_of_reconciled (h : project.Grounded before)
    (hreconciled : project.Reconciled outcomes before after reconciliation)
    (hpending : after.pending = Pending.empty) : project.Grounded after where
  index := by
    cases hwritten : reconciliation.isWritten with
    | true => exact .inl (hreconciled.refreshed hwritten)
    | false =>
      obtain ⟨-, hindex⟩ := hreconciled.eq_of_not_isWritten hwritten
      refine h.index.imp (fun current => hreconciled.isCurrent_iff.2 (.inr current)) fun hblank => ?_
      rw [hindex]
      exact hblank
  pending hmem := by
    rw [hpending] at hmem
    exact absurd hmem Pending.not_mem_pairs_empty
  apart := by
    rw [Reconciliation.workingDirectory_of_run hreconciled.files]
    exact h.apart

/-- **A reconciliation leaves every source file alone** that can be read. -/
theorem Reconciled.entry?_eq {unit : SourceUnit} {entry : FileEntry}
    (h : project.Reconciled outcomes before after reconciliation)
    (hmem : unit.path ∈ project.searched before.files)
    (hread : project.scope.Reads before.files unit)
    (hentry : before.files.entry? (project.scope.resolve unit.path) = some entry) :
    after.files.entry? (project.scope.resolve unit.path) = some entry :=
  Reconciliation.entry?_of_run h.files
    (fun language => SourceScope.keyOf_ne_fileKey hmem hread _ _ _ language) hentry

theorem Reconciled.reads {unit : SourceUnit}
    (h : project.Reconciled outcomes before after reconciliation)
    (hmem : unit.path ∈ project.searched before.files)
    (hread : project.scope.Reads before.files unit) : project.scope.Reads after.files unit := by
  obtain ⟨stamp, hentry⟩ := FileTree.readText_eq_ok_iff_exists_stamp.1 hread
  exact FileTree.readText_eq_ok_iff_exists_stamp.2 ⟨stamp, h.entry?_eq hmem hread hentry⟩

section Target

variable (hlanguage : project.settings.keyLanguage = .target)
include hlanguage

/-- **An output without anything unresolved stays up to date** through a reconciliation, since every
key in it is asked for by its own file. -/
theorem upToDate_of_reconciled (hgrounded : project.Grounded before)
    (h : project.Reconciled outcomes before after reconciliation)
    (unshared : Outcome.Unshared before.index outcomes)
    (hnone : ∀ outcome ∈ outcomes, before.index.lookup? outcome.ns outcome.phrase = none)
    (hsearched : file ∈ project.searched before.files)
    (hfile : project.UpToDate before feed file)
    (hresolved : ∀ rewriting, feed.outputs.get? file = some rewriting → rewriting.unresolved = []) :
    project.UpToDate after feed file := by
  intro rewriting hrewriting
  obtain ⟨unit, rfl, hread, hrewrite, -⟩ := hfile rewriting hrewriting
  have hnothing := hresolved rewriting hrewriting
  refine ⟨unit, rfl, h.reads hsearched hread, ?_, ?_⟩
  · rw [← hrewrite]
    refine (MarkerRules.rewrite_congr fun hvendored calls hcalls call hcall => ?_).symm
    -- The call has a key, as nothing is unresolved, and the survey finds the call.
    have hkey : (before.index.lookup? call.namespaceName call.phrase).isSome := by
      have hfind := (MarkerRules.findKnown_eq_ok_iff.1 hcalls).1
      exact MarkerRules.isSome_lookup?_of_rewrite hrewrite hnothing hvendored hfind hcall
    obtain ⟨key, hlookup⟩ := Option.isSome_iff_exists.1 hkey
    have hfinds : project.Finds before.files call.namespaceName call.phrase :=
      finds_of_findKnown hsearched hread hvendored hcalls hcall
    rcases hgrounded.index with current | hblank
    · rw [hlookup]
      refine (lookup?_of_reconciled hlanguage h current hgrounded.apart unshared ?_ hlookup
        (.inr (.inr hfinds))).symm
      rintro outcome hmem ⟨hns, hphrase⟩
      have hnokey := hnone outcome hmem
      rw [hns, hphrase, hlookup] at hnokey
      cases hnokey
    · rw [hblank] at hlookup
      cases hlookup
  · intro request hrequest
    rw [hnothing] at hrequest
    cases hrequest

/-- **A flush leaves the outputs of all other files up to date** than those it reports as affected. -/
theorem upToDate_of_flush (hgrounded : project.Grounded before) {translator : Translator}
    {flush : Flush} (h : (project.flush translator).runOn before = (.ok flush, after))
    (hsearched : file ∈ project.searched before.files)
    (hfile : project.UpToDate before feed file) (haffected : file ∉ before.pending.files.keys) :
    project.UpToDate after feed file := by
  have hresolved : ∀ rewriting, feed.outputs.get? file = some rewriting →
      rewriting.unresolved = [] := by
    intro rewriting hrewriting
    obtain ⟨_, _, _, _, hpending⟩ := hfile rewriting hrewriting
    refine List.eq_nil_iff_forall_not_mem.2 fun request hrequest => ?_
    exact haffected (hpending request hrequest).2
  obtain ⟨-, ⟨-, hfiles, hindex⟩ | ⟨houtcomes, reconciliation, hreconciled⟩⟩ := flushed_of_flush h
  · intro rewriting hrewriting
    obtain ⟨unit, hpath, hread, hrewrite, -⟩ := hfile rewriting hrewriting
    rw [hfiles, hindex]
    refine ⟨unit, hpath, hread, hrewrite, fun request hrequest => ?_⟩
    rw [hresolved rewriting hrewriting] at hrequest
    cases hrequest
  · have hunpended : project.Grounded (unpended before) :=
      ⟨hgrounded.index, fun hmem => absurd hmem Pending.not_mem_pairs_empty, hgrounded.apart⟩
    have hfileUnpended : project.UpToDate (unpended before) feed file := by
      intro rewriting hrewriting
      obtain ⟨unit, hpath, hread, hrewrite, -⟩ := hfile rewriting hrewriting
      refine ⟨unit, hpath, hread, hrewrite, fun request hrequest => ?_⟩
      rw [hresolved rewriting hrewriting] at hrequest
      cases hrequest
    rw [houtcomes] at hreconciled
    exact upToDate_of_reconciled hlanguage hunpended hreconciled
      (Outcome.unshared_assign before.index _)
      (fun outcome hmem => hgrounded.pending (mem_pairs_of_mem_outcomesOf hmem)) hsearched
      hfileUnpended hresolved

end Target

end Phrasebook.Project
