import Phrasebook.Proofs.MarkerTextSearch
import Phrasebook.Proofs.Session

/-!
# Exact rewritings

A rewriting does not depend on how the calls of a unit are found, as long as the spans of the marker
calls among them lie in the text and do not overlap. In the order of their starts the spans then
fit, so every marker call with a key becomes its reference, every other one is listed, and nothing
else changes. A namespace that is not known refuses the unit; the first call of one is named.

Results:
* `MarkerRules.rewrite_eq_bind`: a unit is rewritten by the calls that its source gives.
* `Splice.Scattered.fit`: scattered spans fit in the order of their starts.
* `MarkerRules.scattered_of_text`: the marker calls of a text are scattered.
* `MarkerRules.rewrites_of_scattered`: scattered marker calls are rewritten exactly.
-/

namespace Phrasebook

namespace Splice

/-- The spans cover pieces of the text, none of them empty, that do not overlap. -/
structure Scattered (text : List Char) (spans : List Span) : Prop where
  covers : ∀ span ∈ spans, Covers text span
  nonempty : ∀ span ∈ spans, span.start < span.stop
  apart : spans.Pairwise fun first second =>
    first.stop ≤ second.start ∨ second.stop ≤ first.start

variable {text : List Char} {spans others : List Span}

/-- The order of the spans does not matter. -/
theorem Scattered.perm (h : Scattered text spans) (hperm : spans.Perm others) :
    Scattered text others where
  covers span hmem := h.covers span (hperm.mem_iff.2 hmem)
  nonempty span hmem := h.nonempty span (hperm.mem_iff.2 hmem)
  apart := hperm.pairwise h.apart Or.symm

/-- Scattered spans in the order of their starts lie one after the other. -/
theorem Scattered.stop_le_start (h : Scattered text spans)
    (hsorted : spans.Pairwise fun first second => first.start ≤ second.start) :
    spans.Pairwise fun first second => first.stop ≤ second.start := by
  refine (h.apart.and hsorted).imp_of_mem ?_
  rintro first second hfirst hsecond ⟨hafter | hbefore, hle⟩
  · exact hafter
  · have := h.nonempty second hsecond
    omega

/-- **Scattered spans fit in the order of their starts.** -/
theorem Scattered.fit (h : Scattered text spans)
    (hsorted : spans.Pairwise fun first second => first.start ≤ second.start) : Fit text spans :=
  ⟨h.covers, h.stop_le_start hsorted⟩

end Splice

namespace MarkerRules

open Splice

variable {rules : MarkerRules} {index : PhraseIndex} {unit : SourceUnit} {calls : List Call}
  {markers : List MarkerCall}

/-! ## Rewriting by calls -/

/-- The marker calls among some calls, in the order of their starts. -/
def markersAmong (rules : MarkerRules) (calls : List Call) : List MarkerCall :=
  (calls.filterMap (Call.marker? rules.marker)).mergeSort fun first second =>
    first.span.start ≤ second.span.start

/-- A unit with some calls, rewritten. -/
def rewriteCalls (rules : MarkerRules) (index : PhraseIndex) (unit : SourceUnit)
    (calls : List Call) : Except Problem Rewriting :=
  let markers := rules.markersAmong calls
  match markers.find? fun call => !rules.namespaces.contains call.namespaceName with
  | some call => .error (.settings (.unknownNamespace call.namespaceName call.location))
  | none => .ok (rules.rewritingOf index unit markers)

/-- **A unit is rewritten by the calls that its source gives.** -/
theorem rewrite_eq_bind (hvendored : rules.isVendored unit.path = false) (index : PhraseIndex) :
    rules.rewrite index unit
      = (rules.source.calls rules.marker unit).bind (rules.rewriteCalls index unit) := by
  rw [rewrite_of_not_isVendored hvendored]
  unfold findKnown find
  cases rules.source.calls rules.marker unit with
  | error problem => rfl
  | ok calls =>
    show Except.map _ (match (rules.markersAmong calls).find? _ with
      | some call => _
      | none => _) = rules.rewriteCalls index unit calls
    unfold rewriteCalls
    dsimp only
    split <;> rfl

/-! ## Marker calls in order -/

/-- These are the marker calls among some calls, in the order of the text. -/
structure InOrder (rules : MarkerRules) (calls : List Call) (markers : List MarkerCall) : Prop where
  perm : markers.Perm (calls.filterMap (Call.marker? rules.marker))
  sorted : markers.Pairwise fun first second => first.span.start < second.span.start

/-- The spans of the marker calls among some calls. -/
def spansAmong (rules : MarkerRules) (calls : List Call) : List Span :=
  (calls.filterMap (Call.marker? rules.marker)).map (·.span)

theorem perm_markersAmong (rules : MarkerRules) (calls : List Call) :
    (rules.markersAmong calls).Perm (calls.filterMap (Call.marker? rules.marker)) :=
  List.mergeSort_perm ..

theorem markersAmong_sorted (rules : MarkerRules) (calls : List Call) :
    ((rules.markersAmong calls).map (·.span)).Pairwise
      fun first second => first.start ≤ second.start := by
  refine List.pairwise_map.2 ((List.pairwise_mergeSort ?_ ?_ _).imp of_decide_eq_true)
  · intro first second third hfirst hsecond
    exact decide_eq_true (Nat.le_trans (of_decide_eq_true hfirst) (of_decide_eq_true hsecond))
  · intro first second
    simpa using Nat.le_total first.span.start second.span.start

theorem scattered_markersAmong (h : Scattered unit.code.toList (rules.spansAmong calls)) :
    Scattered unit.code.toList ((rules.markersAmong calls).map (·.span)) :=
  h.perm ((rules.perm_markersAmong calls).map _).symm

theorem inOrder_markersAmong (h : Scattered unit.code.toList (rules.spansAmong calls)) :
    rules.InOrder calls (rules.markersAmong calls) := by
  have hscattered := scattered_markersAmong h
  have hbefore := hscattered.stop_le_start (rules.markersAmong_sorted calls)
  refine ⟨rules.perm_markersAmong calls, (List.pairwise_map.1 hbefore).imp_of_mem ?_⟩
  intro first second hfirst _ hle
  exact Nat.lt_of_lt_of_le (hscattered.nonempty _ (List.mem_map_of_mem hfirst)) hle

/-! ## Exact rewritings -/

/-- What rewriting a unit with these marker calls gives. The first call of a namespace that is not
known is named. Otherwise every call with a key becomes its reference, the text around stays as it
is, and the other calls are listed. -/
inductive Rewrites (rules : MarkerRules) (index : PhraseIndex) (unit : SourceUnit)
    (markers : List MarkerCall) : Except Problem Rewriting → Prop
  | unknown {before after : List MarkerCall} {call : MarkerCall}
      (hmarkers : markers = before ++ call :: after)
      (hbefore : ∀ other ∈ before, other.namespaceName ∈ rules.namespaces)
      (hunknown : call.namespaceName ∉ rules.namespaces) :
      Rewrites rules index unit markers
        (.error (.settings (.unknownNamespace call.namespaceName call.location)))
  | spliced {references : List (MarkerCall × String)} {code : String}
      (hknown : ∀ call ∈ markers, call.namespaceName ∈ rules.namespaces)
      (hcalls : references.map Prod.fst = markers.filter (isResolved index))
      (hkeys : ∀ reference ∈ references,
        index.lookup? reference.1.namespaceName reference.1.phrase = some reference.2)
      (hcode : Spliced 0 unit.code.toList
        (references.map fun (call, key) => (call.span, rules.reference call key)) code.toList) :
      Rewrites rules index unit markers
        (.ok ⟨code, references.length,
          (markers.filter (!isResolved index ·)).map asUnresolved⟩)

/-- Marker calls that fit are rewritten exactly. -/
theorem rewrites_rewritingOf (hfit : Fit unit.code.toList (markers.map (·.span)))
    (hknown : ∀ call ∈ markers, call.namespaceName ∈ rules.namespaces) :
    rules.Rewrites index unit markers (.ok (rules.rewritingOf index unit markers)) := by
  have hsublist : ((markers.filter (isResolved index)).map (·.span)).Sublist
      (markers.map (·.span)) := List.filter_sublist.map _
  obtain ⟨hspliced, hcount⟩ := spliced_rewritingOf rules
    ⟨fun span hmem => hfit.covers span (hsublist.subset hmem), hfit.apart.sublist hsublist⟩
  rw [rewritingOf_eq] at hspliced hcount ⊢
  dsimp only at hcount ⊢
  rw [hcount]
  exact .spliced hknown (map_fst_referencesOf index markers)
    (fun reference hmem => (mem_referencesOf.1 hmem).2) hspliced

/-- **Scattered marker calls are rewritten exactly**, in whatever order they are given. -/
theorem rewrites_rewriteCalls (h : Scattered unit.code.toList (rules.spansAmong calls))
    (index : PhraseIndex) :
    rules.Rewrites index unit (rules.markersAmong calls)
      (rules.rewriteCalls index unit calls) := by
  have hfit := (scattered_markersAmong h).fit (rules.markersAmong_sorted calls)
  unfold rewriteCalls
  dsimp only
  split
  · next call hcall =>
    obtain ⟨hunknown, before, after, hmarkers, hbefore⟩ := List.find?_eq_some_iff_append.1 hcall
    exact .unknown hmarkers (fun other hmem => by simpa using hbefore other hmem)
      (by simpa using hunknown)
  · next hnone =>
    exact rewrites_rewritingOf hfit fun call hmem => by
      simpa using List.find?_eq_none.1 hnone call hmem

/-- Each marker call is replaced or listed. -/
theorem Rewrites.replaced_add_length {rewriting : Rewriting}
    (h : rules.Rewrites index unit markers (.ok rewriting)) :
    rewriting.replaced + rewriting.unresolved.length = markers.length := by
  cases h with
  | spliced hknown hcalls hkeys hcode =>
    rw [← List.length_map Prod.fst, hcalls, List.length_map]
    exact (List.length_eq_length_filter_add _).symm

/-- The marker calls that are found in a text are scattered. -/
theorem scattered_of_text (rules : MarkerRules) (unit : SourceUnit) :
    Scattered unit.code.toList (rules.spansAmong (Marker.Text.calls rules.marker unit)) := by
  have hvisits := Marker.Text.visits_find rules.marker unit.code.toList
  have hfit : Fit unit.code.toList (rules.spansAmong (Marker.Text.calls rules.marker unit)) :=
    fit_calls rules.marker unit
  refine ⟨hfit.covers, fun span hmem => ?_, hfit.apart.imp Or.inl⟩
  obtain ⟨marker, hmarker, rfl⟩ := List.mem_map.1 hmem
  obtain ⟨call, hcall, hmarkerCall⟩ := List.mem_filterMap.1 hmarker
  obtain ⟨found, hfound, rfl⟩ := List.mem_map.1 hcall
  rw [Call.span_of_marker? hmarkerCall]
  exact (hvisits.stands found (List.mem_filter.1 hfound).1).start_lt_stop

/-- **Rewriting is an exact splice.** Whatever calls a source gives for a unit, if the spans of the
marker calls among them are scattered in its code, the unit is refused for the first marker call of
a namespace that is not known, or else every marker call with a key becomes its reference, nothing
else changes, and every other marker call is listed. The marker calls of a text are scattered. -/
theorem rewrites_of_scattered (rules : MarkerRules) (index : PhraseIndex) (unit : SourceUnit) :
    (rules.isVendored unit.path = false →
      rules.rewrite index unit
        = (rules.source.calls rules.marker unit).bind (rules.rewriteCalls index unit))
      ∧ (∀ calls, Scattered unit.code.toList (rules.spansAmong calls) →
        ∃ markers, rules.InOrder calls markers
          ∧ rules.Rewrites index unit markers (rules.rewriteCalls index unit calls)
          ∧ ∀ rewriting, rules.rewriteCalls index unit calls = .ok rewriting →
            rewriting.replaced + rewriting.unresolved.length = markers.length)
      ∧ (rules.source = .text → ∃ calls, rules.source.calls rules.marker unit = .ok calls
        ∧ Scattered unit.code.toList (rules.spansAmong calls)) := by
  refine ⟨fun hvendored => rewrite_eq_bind hvendored index, fun calls h => ?_, fun hsource => ?_⟩
  · have hrewrites := rewrites_rewriteCalls h index
    refine ⟨_, inOrder_markersAmong h, hrewrites, fun rewriting heq => ?_⟩
    rw [heq] at hrewrites
    exact hrewrites.replaced_add_length
  · rw [hsource]
    exact ⟨_, rfl, rules.scattered_of_text unit⟩

/-- Two calls, given in the wrong order after a character of several bytes: the first one of the
text has no key and is listed, the second one becomes a reference. -/
theorem rewrites_small_of_scattered :
    let rules := Project.small.rules
    let index := Project.small.indexOf (Project.smallCatalog "hello" "你好")
    let unit : SourceUnit := ⟨"src/app.ts", "你 i18n.s('再见') i18n.s('你好')"⟩
    let call (phrase : String) (span : Span) (column : Nat) : Call :=
      ⟨["i18n", "s"], [.text phrase .single], span, ⟨unit.path, 1, column⟩, unit.code⟩
    let calls := [call "你好" ⟨21, 37⟩ 16, call "再见" ⟨4, 20⟩ 3]
    rules.isVendored unit.path = false
      ∧ Scattered unit.code.toList (rules.spansAmong calls)
      ∧ rules.source = .text
      ∧ rules.rewrite index unit
        = (rules.source.calls rules.marker unit).bind (rules.rewriteCalls index unit)
      ∧ rules.rewriteCalls index unit calls
        = .ok ⟨"你 i18n.s('再见') i18n.t('hello')", 1,
          [⟨"再见", "default", ⟨unit.path, 1, 3⟩, unit.code⟩]⟩
      ∧ ∃ markers, rules.InOrder calls markers
        ∧ rules.Rewrites index unit markers (rules.rewriteCalls index unit calls)
        ∧ markers.length = 2 := by
  intro rules index unit call calls
  obtain ⟨hrewrite, hcalls, -⟩ := rewrites_of_scattered rules index unit
  have hscattered : Scattered unit.code.toList (rules.spansAmong calls) := by
    have hspans : rules.spansAmong calls = [⟨21, 37⟩, ⟨4, 20⟩] := by decide +kernel
    rw [hspans]
    refine ⟨List.forall_mem_cons.2 ⟨?_, List.forall_mem_singleton.2 ?_⟩, by decide, by decide⟩
    · exact ⟨"你 i18n.s('再见') ".toList, "i18n.s('你好')".toList, [], by decide +kernel,
        by decide +kernel, by decide +kernel⟩
    · exact ⟨"你 ".toList, "i18n.s('再见')".toList, " i18n.s('你好')".toList, by decide +kernel,
        by decide +kernel, by decide +kernel⟩
  let marker (phrase : String) (span : Span) (column : Nat) : MarkerCall :=
    ⟨phrase, none, .single, span, ⟨unit.path, 1, column⟩, unit.code⟩
  have hsorted : rules.markersAmong calls
      = [marker "再见" ⟨4, 20⟩ 3, marker "你好" ⟨21, 37⟩ 16] := by
    have hfound : calls.filterMap (Call.marker? rules.marker)
        = [marker "你好" ⟨21, 37⟩ 16, marker "再见" ⟨4, 20⟩ 3] := by decide +kernel
    unfold markersAmong
    rw [hfound]
    simp [List.mergeSort, marker]
  have hresult : rules.rewriteCalls index unit calls
      = .ok ⟨"你 i18n.s('再见') i18n.t('hello')", 1,
        [⟨"再见", "default", ⟨unit.path, 1, 3⟩, unit.code⟩]⟩ := by
    unfold rewriteCalls
    rw [hsorted]
    decide +kernel
  obtain ⟨markers, hmarkers, hrewrites, hlength⟩ := hcalls calls hscattered
  exact ⟨by decide, hscattered, rfl, hrewrite (by decide), hresult, markers, hmarkers, hrewrites,
    (hlength _ hresult).symm⟩

end MarkerRules

end Phrasebook
