import Mathlib.Data.List.Basic
import Phrasebook.Rewriting

/-!
# What a rewriting depends on

A rewritten unit depends on the index by the keys of its own marker calls alone. So it stays as it is
when the index changes and those keys do not. Each call either becomes a reference to its key or is
left over without one, at a location in the file of the unit.

Results:
* `MarkerRules.rewrite_congr`: indexes with the same keys for the calls of a unit rewrite it alike.
* `MarkerRules.isSome_lookup?_of_unresolved_eq_nil`: if nothing is unresolved, every call has a key.
* `MarkerRules.file_of_mem_unresolved`: what is unresolved is so in the file of the unit.
* `MarkerRules.exists_refers_of_rewrite`: the references of a rewriting.
-/

namespace Phrasebook

/-! ## Locations -/

/-- The calls of a unit stand in its file. -/
theorem CallSource.file_of_mem_calls {source : CallSource} {marker : String} {unit : SourceUnit}
    {calls : List Call} (h : source.calls marker unit = .ok calls) {call : Call}
    (hmem : call ∈ calls) : call.location.file = unit.path := by
  cases source with
  | text =>
    cases h
    obtain ⟨found, -, rfl⟩ := List.mem_map.1 hmem
    rfl
  | tree =>
    unfold CallSource.calls at h
    cases hcalls : Script.calls? marker unit with
    | none =>
      rw [hcalls] at h
      cases h
    | some found =>
      rw [hcalls] at h
      cases h
      obtain ⟨node, -, rfl⟩ := Option.map_eq_some_iff.1 hcalls
      obtain ⟨site, -, rfl⟩ := List.mem_map.1 hmem
      rfl

/-- A marker call stands where its call stands. -/
theorem Call.location_of_marker? {marker : String} {call : Call} {found : MarkerCall}
    (h : call.marker? marker = some found) : found.location = call.location := by
  unfold Call.marker? at h
  split at h
  · split at h <;> cases h <;> rfl
  · cases h

namespace MarkerRules

variable {rules : MarkerRules} {index : PhraseIndex} {unit : SourceUnit} {calls : List MarkerCall}
  {rewriting : Rewriting}

/-- The marker calls of a unit stand in its file. -/
theorem file_of_mem_find (h : rules.find unit = .ok calls) {call : MarkerCall}
    (hmem : call ∈ calls) : call.location.file = unit.path := by
  unfold find at h
  cases hcalls : rules.source.calls rules.marker unit with
  | error problem =>
    rw [hcalls] at h
    cases h
  | ok found =>
    rw [hcalls] at h
    cases h
    obtain ⟨origin, horigin, hmarker⟩ := List.mem_filterMap.1 (List.mem_mergeSort.1 hmem)
    rw [Call.location_of_marker? hmarker]
    exact CallSource.file_of_mem_calls hcalls horigin

/-! ## The calls of a rewriting -/

/-- The marker calls of a unit, all of known namespaces. -/
theorem findKnown_eq_ok_iff :
    rules.findKnown unit = .ok calls
      ↔ rules.find unit = .ok calls ∧ ∀ call ∈ calls, call.namespaceName ∈ rules.namespaces := by
  unfold findKnown
  cases rules.find unit with
  | error problem => simp [bind, Except.bind]
  | ok found =>
    simp only [bind, Except.bind]
    cases hunknown : found.find? fun call => !rules.namespaces.contains call.namespaceName with
    | some call =>
      have hcall := List.find?_some hunknown
      have hmem := List.mem_of_find?_eq_some hunknown
      simp only [reduceCtorEq, false_iff, Except.ok.injEq, not_and]
      rintro rfl hknown
      simp [hknown call hmem] at hcall
    | none =>
      simp only [Except.ok.injEq]
      refine ⟨?_, fun h => h.1⟩
      rintro rfl
      exact ⟨rfl, fun call hmem => by simpa using List.find?_eq_none.1 hunknown call hmem⟩

/-- The rewriting of a unit with some marker calls. -/
def rewritingOf (rules : MarkerRules) (index : PhraseIndex) (unit : SourceUnit)
    (calls : List MarkerCall) : Rewriting :=
  let (code, replaced) :=
    Splice.fromCursor unit.code.toList 0 (calls.filterMap (rules.replacement? index))
  ⟨String.ofList code, replaced, calls.filterMap (unresolved? index)⟩

theorem rewrite_of_not_isVendored (hvendored : rules.isVendored unit.path = false)
    (index : PhraseIndex) :
    rules.rewrite index unit = (rules.findKnown unit).map (rules.rewritingOf index unit) := by
  unfold rewrite
  rw [hvendored]
  rfl

theorem rewrite_of_isVendored (hvendored : rules.isVendored unit.path = true)
    (index : PhraseIndex) : rules.rewrite index unit = .ok ⟨unit.code, 0, []⟩ := by
  unfold rewrite
  rw [if_pos hvendored]

/-- **A rewriting** leaves a unit below a vendor directory as it is, and is one of the marker calls of
any other unit. -/
theorem rewrite_eq_ok_iff :
    rules.rewrite index unit = .ok rewriting
      ↔ rules.isVendored unit.path = true ∧ rewriting = ⟨unit.code, 0, []⟩
        ∨ rules.isVendored unit.path = false
          ∧ ∃ calls, rules.findKnown unit = .ok calls
            ∧ rewriting = rules.rewritingOf index unit calls := by
  cases hvendored : rules.isVendored unit.path with
  | true => simp [rewrite_of_isVendored hvendored, eq_comm]
  | false =>
    rw [rewrite_of_not_isVendored hvendored]
    cases rules.findKnown unit <;> simp [Except.map, eq_comm]

/-- **A rewriting depends on the keys of its own calls alone.** -/
theorem rewrite_congr {first second : PhraseIndex}
    (h : rules.isVendored unit.path = false → ∀ calls, rules.findKnown unit = .ok calls →
      ∀ call ∈ calls, first.lookup? call.namespaceName call.phrase
        = second.lookup? call.namespaceName call.phrase) :
    rules.rewrite first unit = rules.rewrite second unit := by
  cases hvendored : rules.isVendored unit.path with
  | true => rw [rewrite_of_isVendored hvendored, rewrite_of_isVendored hvendored]
  | false =>
    rw [rewrite_of_not_isVendored hvendored, rewrite_of_not_isVendored hvendored]
    cases hcalls : rules.findKnown unit with
    | error problem => rfl
    | ok calls =>
      have hkeys := h hvendored calls hcalls
      have hreplaced : calls.filterMap (rules.replacement? first)
          = calls.filterMap (rules.replacement? second) := by
        refine List.filterMap_congr fun call hmem => ?_
        unfold replacement?
        rw [hkeys call hmem]
      have hunresolved : calls.filterMap (unresolved? first)
          = calls.filterMap (unresolved? second) := by
        refine List.filterMap_congr fun call hmem => ?_
        unfold unresolved?
        rw [hkeys call hmem]
      simp only [Except.map, rewritingOf, hreplaced, hunresolved]

/-! ## Calls without a key -/

theorem mem_unresolved_rewritingOf {request : Unresolved} :
    request ∈ (rules.rewritingOf index unit calls).unresolved
      ↔ ∃ call ∈ calls, index.lookup? call.namespaceName call.phrase = none
        ∧ request = ⟨call.phrase, call.namespaceName, call.location, call.sourceLine⟩ := by
  show request ∈ calls.filterMap (unresolved? index) ↔ _
  rw [List.mem_filterMap]
  refine exists_congr fun call => and_congr_right fun _ => ?_
  unfold unresolved?
  cases index.lookup? call.namespaceName call.phrase <;> simp [eq_comm]

/-- **If nothing is unresolved, every call has a key.** -/
theorem isSome_lookup?_of_unresolved_eq_nil
    (h : (rules.rewritingOf index unit calls).unresolved = []) {call : MarkerCall}
    (hmem : call ∈ calls) : (index.lookup? call.namespaceName call.phrase).isSome := by
  cases hlookup : index.lookup? call.namespaceName call.phrase with
  | some key => rfl
  | none =>
    have hrequest : ⟨call.phrase, call.namespaceName, call.location, call.sourceLine⟩
        ∈ (rules.rewritingOf index unit calls).unresolved :=
      mem_unresolved_rewritingOf.2 ⟨call, hmem, hlookup, rfl⟩
    rw [h] at hrequest
    cases hrequest

/-- A rewriting that leaves nothing unresolved has a key for every call of the unit. -/
theorem isSome_lookup?_of_rewrite (h : rules.rewrite index unit = .ok rewriting)
    (hnothing : rewriting.unresolved = []) (hvendored : rules.isVendored unit.path = false)
    (hcalls : rules.find unit = .ok calls) {call : MarkerCall} (hmem : call ∈ calls) :
    (index.lookup? call.namespaceName call.phrase).isSome := by
  rcases rewrite_eq_ok_iff.1 h with ⟨hcontra, -⟩ | ⟨-, known, hknown, rfl⟩
  · rw [hvendored] at hcontra
    cases hcontra
  · rw [(findKnown_eq_ok_iff.1 hknown).1] at hcalls
    cases hcalls
    exact isSome_lookup?_of_unresolved_eq_nil hnothing hmem

/-- **A unit that can be rewritten has nothing unresolved** by an index with a key for every call. -/
theorem exists_rewrite_of_isSome_lookup? {other : PhraseIndex}
    (h : rules.rewrite other unit = .ok rewriting)
    (hkeys : rules.isVendored unit.path = false → ∀ calls, rules.findKnown unit = .ok calls →
      ∀ call ∈ calls, (index.lookup? call.namespaceName call.phrase).isSome) :
    ∃ rewriting, rules.rewrite index unit = .ok rewriting ∧ rewriting.unresolved = [] := by
  rcases rewrite_eq_ok_iff.1 h with ⟨hvendored, -⟩ | ⟨hvendored, calls, hcalls, -⟩
  · exact ⟨_, rewrite_of_isVendored hvendored index, rfl⟩
  · refine ⟨_, rewrite_eq_ok_iff.2 (.inr ⟨hvendored, calls, hcalls, rfl⟩), ?_⟩
    refine List.eq_nil_iff_forall_not_mem.2 fun request hrequest => ?_
    obtain ⟨call, hcall, hnone, -⟩ := mem_unresolved_rewritingOf.1 hrequest
    have hkey := hkeys hvendored calls hcalls call hcall
    rw [hnone] at hkey
    cases hkey

/-- **What is unresolved is so in the file of the unit.** -/
theorem file_of_mem_unresolved (h : rules.rewrite index unit = .ok rewriting)
    {request : Unresolved} (hmem : request ∈ rewriting.unresolved) :
    request.location.file = unit.path := by
  rcases rewrite_eq_ok_iff.1 h with ⟨-, rfl⟩ | ⟨-, calls, hcalls, rfl⟩
  · cases hmem
  · obtain ⟨call, hcall, -, rfl⟩ := mem_unresolved_rewritingOf.1 hmem
    exact file_of_mem_find (findKnown_eq_ok_iff.1 hcalls).1 hcall

/-! ## References -/

/-- A rewriting puts references to keys in place of some marker calls of its unit, and changes
nothing else. -/
structure Refers (rules : MarkerRules) (unit : SourceUnit) (rewriting : Rewriting)
    (references : List (MarkerCall × String)) : Prop where
  calls : ∀ reference ∈ references, ∃ calls, rules.find unit = .ok calls ∧ reference.1 ∈ calls
  spliced : Splice.fromCursor unit.code.toList 0
      (references.map fun (call, key) => (call.span, rules.reference call key))
    = (rewriting.code.toList, rewriting.replaced)

/-- Nothing is put in place of nothing. -/
theorem fromCursor_nil (text : List Char) : Splice.fromCursor text 0 [] = (text, 0) := by
  cases text <;> rfl

/-- The references of some marker calls by an index. -/
def referencesOf (index : PhraseIndex) (calls : List MarkerCall) : List (MarkerCall × String) :=
  calls.filterMap fun call =>
    (index.lookup? call.namespaceName call.phrase).map fun key => (call, key)

theorem mem_referencesOf {reference : MarkerCall × String} :
    reference ∈ referencesOf index calls
      ↔ reference.1 ∈ calls
        ∧ index.lookup? reference.1.namespaceName reference.1.phrase = some reference.2 := by
  rcases reference with ⟨call, key⟩
  unfold referencesOf
  simp only [List.mem_filterMap, Option.map_eq_some_iff, Prod.mk.injEq]
  constructor
  · rintro ⟨other, hmem, found, hlookup, rfl, rfl⟩
    exact ⟨hmem, hlookup⟩
  · rintro ⟨hmem, hlookup⟩
    exact ⟨call, hmem, key, hlookup, rfl, rfl⟩

/-- The references of marker calls, as what the calls become. -/
theorem map_referencesOf (rules : MarkerRules) (index : PhraseIndex) (calls : List MarkerCall) :
    (referencesOf index calls).map (fun (call, key) => (call.span, rules.reference call key))
      = calls.filterMap (rules.replacement? index) := by
  unfold referencesOf
  rw [List.map_filterMap]
  refine List.filterMap_congr fun call _ => ?_
  unfold replacement?
  cases index.lookup? call.namespaceName call.phrase <;> rfl

/-- The index has a key for the phrase of a call. -/
def isResolved (index : PhraseIndex) (call : MarkerCall) : Bool :=
  (index.lookup? call.namespaceName call.phrase).isSome

/-- A call as one whose phrase has no key. -/
def asUnresolved (call : MarkerCall) : Unresolved :=
  ⟨call.phrase, call.namespaceName, call.location, call.sourceLine⟩

/-- The references are to the calls with a key. -/
theorem map_fst_referencesOf (index : PhraseIndex) (markers : List MarkerCall) :
    (referencesOf index markers).map Prod.fst = markers.filter (isResolved index) := by
  unfold referencesOf
  rw [List.map_filterMap, ← List.filterMap_eq_filter]
  refine List.filterMap_congr fun call _ => ?_
  unfold isResolved Option.guard
  cases hkey : index.lookup? call.namespaceName call.phrase <;> simp [hkey]

/-- The references stand at the spans of the calls with a key. -/
theorem spans_referencesOf (rules : MarkerRules) (index : PhraseIndex)
    (markers : List MarkerCall) :
    ((referencesOf index markers).map
        fun (call, key) => (call.span, rules.reference call key)).map Prod.fst
      = (markers.filter (isResolved index)).map (·.span) := by
  rw [← map_fst_referencesOf, List.map_map, List.map_map]
  rfl

/-- The calls without a key are listed. -/
theorem filterMap_unresolved? (index : PhraseIndex) (markers : List MarkerCall) :
    markers.filterMap (unresolved? index)
      = (markers.filter (!isResolved index ·)).map asUnresolved := by
  rw [← List.filterMap_eq_map, List.filterMap_filter]
  refine List.filterMap_congr fun call _ => ?_
  unfold unresolved? isResolved
  cases index.lookup? call.namespaceName call.phrase <;> rfl

/-- A rewriting puts in the references to the calls with a key, and lists the other calls. -/
theorem rewritingOf_eq (rules : MarkerRules) (index : PhraseIndex) (unit : SourceUnit)
    (markers : List MarkerCall) :
    rules.rewritingOf index unit markers =
      let spliced := Splice.fromCursor unit.code.toList 0
        ((referencesOf index markers).map
          fun (call, key) => (call.span, rules.reference call key))
      ⟨String.ofList spliced.1, spliced.2,
        (markers.filter (!isResolved index ·)).map asUnresolved⟩ := by
  unfold rewritingOf
  dsimp only
  rw [map_referencesOf, filterMap_unresolved?]

/-- **The references of a rewriting** are to the keys of the calls in the index. -/
theorem exists_refers_of_rewrite (h : rules.rewrite index unit = .ok rewriting) :
    ∃ references, rules.Refers unit rewriting references
      ∧ ∀ reference ∈ references,
        index.lookup? reference.1.namespaceName reference.1.phrase = some reference.2 := by
  rcases rewrite_eq_ok_iff.1 h with ⟨-, rfl⟩ | ⟨-, calls, hcalls, rfl⟩
  · exact ⟨[], ⟨fun _ hmem => absurd hmem List.not_mem_nil, fromCursor_nil _⟩,
      fun _ hmem => absurd hmem List.not_mem_nil⟩
  · refine ⟨referencesOf index calls, ⟨fun reference hmem => ?_, ?_⟩, fun reference hmem =>
      (mem_referencesOf.1 hmem).2⟩
    · exact ⟨calls, (findKnown_eq_ok_iff.1 hcalls).1, (mem_referencesOf.1 hmem).1⟩
    · rw [rewritingOf_eq, String.toList_ofList]

end MarkerRules

end Phrasebook
