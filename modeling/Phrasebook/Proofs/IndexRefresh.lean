import Phrasebook.Proofs.Session

/-!
# When the index follows the files

A reconciliation loads the locale files afresh, but takes the keys of phrases from the index it
finds, and it refreshes the index only if it wrote a locale file. So an index that was loaded before
the files were edited is brought in line exactly by the reconciliations that write.

Results:
* `Project.isCurrent_iff_of_reconcile`: the index after a reconciliation is that of the source file
  exactly if a locale file was written or the index was that of the source file before; and then
  no phrase of the source file is unresolved in the next unit.
* `Project.not_isCurrent_of_reconcile`: a reconciliation that leaves the index behind.
-/

namespace Phrasebook.Project

variable {project : Project} {before after : Session}

/-- With a current index, a phrase of the source file is not unresolved. -/
theorem ne_of_mem_unresolved (current : project.IsCurrent before) {source : Catalog}
    (hsource : project.locales.Holds project.locales.sourceLanguage before.files source)
    {ns key phrase : String}
    (hcarried : (project.indexOf source).phraseForKey? ns key = some phrase)
    {unit : SourceUnit} {rewriting : Rewriting}
    (hrewrite : project.rules.rewrite before.index unit = .ok rewriting) {request : Unresolved}
    (hmem : request ∈ rewriting.unresolved) : ¬(request.ns = ns ∧ request.phrase = phrase) := by
  rintro ⟨rfl, rfl⟩
  obtain ⟨held, hheld, hindex⟩ := isCurrent_iff.1 current
  obtain rfl := hheld.unique hsource
  rw [← hindex] at hcarried
  obtain ⟨first, hfirst⟩ := PhraseIndex.exists_lookup? hcarried
  rw [lookup?_of_mem_unresolved hrewrite hmem] at hfirst
  cases hfirst

/-- **The index after a reconciliation** is that of the source file exactly if a locale file was
written or if it was so before; a reconciliation that wrote nothing leaves both as they are. When it
is, a phrase of the source file is unresolved in no unit that is rewritten next. -/
theorem isCurrent_iff_of_reconcile {outcomes : List Outcome} {reconciliation : Reconciliation}
    (h : (project.reconcile outcomes).runOn before = (.ok reconciliation, after)) :
    (project.IsCurrent after ↔ reconciliation.isWritten = true ∨ project.IsCurrent before)
      ∧ (reconciliation.isWritten = false →
        after.files = before.files ∧ after.index = before.index)
      ∧ (project.IsCurrent after → ∀ source ns key phrase unit rewriting request,
        project.locales.Holds project.locales.sourceLanguage after.files source →
        (project.indexOf source).phraseForKey? ns key = some phrase →
        project.rules.rewrite after.index unit = .ok rewriting →
        request ∈ rewriting.unresolved → ¬(request.ns = ns ∧ request.phrase = phrase)) := by
  have hreconciled := reconciled_of_reconcile h
  refine ⟨hreconciled.isCurrent_iff, hreconciled.eq_of_not_isWritten, ?_⟩
  intro current source ns key phrase unit rewriting request hsource hcarried hrewrite hmem
  exact ne_of_mem_unresolved current hsource hcarried hrewrite hmem

/-- The small project reconciles with a current index. -/
theorem isCurrent_small_of_reconcile :
    small.IsCurrent ((small.reconcile []).runOn (smallKnown "hello" "hello")).2 := by
  have hreport : ((small.reconcile []).runOn (smallKnown "hello" "hello")).1.toOption
      = some ⟨false, false, 0, false⟩ := by decide +kernel
  have current : small.IsCurrent (smallKnown "hello" "hello") := by decide +kernel
  exact (isCurrent_iff_of_reconcile (SessionAction.runOn_eq_ok hreport)).1.2 (.inr current)

/-! ## An index left behind -/

/-- The small project, but no keys are removed. -/
def smallKeeping : Project := { small with settings := { small.settings with prune := false } }

/-- **A reconciliation can leave the index behind**: the files were filled in by hand, they are in
line with each other and with the units, and nothing is written. -/
theorem not_isCurrent_of_reconcile :
    ¬∀ (project : Project) (outcomes : List Outcome) (before after : Session)
      (reconciliation : Reconciliation),
      (project.reconcile outcomes).runOn before = (.ok reconciliation, after) →
      project.IsCurrent after := by
  intro hall
  have hreport : ((smallKeeping.reconcile []).runOn (smallFilled "hello" "hello")).1.toOption
      = some ⟨false, false, 0, false⟩ := by decide +kernel
  have hreconcile := SessionAction.runOn_eq_ok hreport
  have hcurrent := hall smallKeeping [] (smallFilled "hello" "hello") _ _ hreconcile
  -- Nothing was written, so the index would have been current from the start.
  have hstale : ¬smallKeeping.IsCurrent (smallFilled "hello" "hello") := by decide +kernel
  rcases (reconciled_of_reconcile hreconcile).isCurrent_iff.1 hcurrent with hwritten | hcurrent
  · cases hwritten
  · exact hstale hcurrent

end Phrasebook.Project
