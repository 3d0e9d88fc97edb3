import Phrasebook.Proofs.Rewriting

/-!
# Spliced texts

New texts are put in place of spans from the start of a text to its end. Spans that lie in the text
one after the other, between its characters, are all replaced, and what stands around them stays.
The calls of a syntax tree need not lie that way: a marker call may stand inside another one, in the
type arguments of its callee, and offsets in a script do not count a byte order mark.

Results:
* `Splice.spliced_fromCursor`: spans that fit are replaced, all of them.
* `MarkerRules.spliced_rewritingOf`: so are the references of a rewriting.
* `MarkerRules.refersAll_of_unresolved_eq_nil`: a rewriting of fitting calls that leaves nothing
  unresolved refers to the key of every call.
-/

namespace Phrasebook

namespace Splice

open Text

/-! ## Spans -/

/-- The span covers a piece of the text. -/
def Covers (text : List Char) (span : Span) : Prop :=
  ∃ before piece after, text = before ++ piece ++ after
    ∧ span.start = byteLength before ∧ span.stop = byteLength (before ++ piece)

/-- The spans cover pieces of the text, one after the other. -/
structure Fit (text : List Char) (spans : List Span) : Prop where
  covers : ∀ span ∈ spans, Covers text span
  apart : spans.Pairwise fun first second => first.stop ≤ second.start

theorem Covers.start_le_stop {text : List Char} {span : Span} (h : Covers text span) :
    span.start ≤ span.stop := by
  obtain ⟨before, piece, after, -, hstart, hstop⟩ := h
  rw [hstart, hstop, byteLength_append]
  exact Nat.le_add_right _ _

/-- A text from an offset on with new texts in place of the pieces that spans cover. -/
inductive Spliced : Nat → List Char → List (Span × List Char) → List Char → Prop
  | nil {offset : Nat} {text : List Char} : Spliced offset text [] text
  | cons {offset : Nat} {before piece after replacement code : List Char}
      {rest : List (Span × List Char)}
      (more : Spliced (offset + byteLength (before ++ piece)) after rest code) :
      Spliced offset (before ++ piece ++ after)
        ((⟨offset + byteLength before, offset + byteLength (before ++ piece)⟩, replacement) :: rest)
        (before ++ replacement ++ code)

/-! ## Cutting -/

theorem exists_byteLength_cons_eq (c : Char) (rest : List Char) :
    ∃ bytes, byteLength (c :: rest) = bytes + 1 :=
  Nat.exists_eq_succ_of_ne_zero (by
    have := Char.utf8Size_pos c
    rw [byteLength_cons]
    omega)

theorem dropBytes?_append (before after : List Char) :
    dropBytes? (byteLength before) (before ++ after) = some after := by
  induction before with
  | nil => exact dropBytes?.eq_1 after
  | cons c rest ih =>
    obtain ⟨bytes, hbytes⟩ := exists_byteLength_cons_eq c rest
    rw [hbytes, List.cons_append, dropBytes?]
    rw [byteLength_cons] at hbytes
    rw [if_pos (by omega), show bytes + 1 - c.utf8Size = byteLength rest by omega, ih]

theorem takeBytes?_append (before after : List Char) :
    takeBytes? (byteLength before) (before ++ after) = some before := by
  induction before with
  | nil => exact takeBytes?.eq_1 after
  | cons c rest ih =>
    obtain ⟨bytes, hbytes⟩ := exists_byteLength_cons_eq c rest
    rw [hbytes, List.cons_append, takeBytes?]
    rw [byteLength_cons] at hbytes
    rw [if_pos (by omega), show bytes + 1 - c.utf8Size = byteLength rest by omega, ih]
    rfl

/-- The piece between two offsets. -/
theorem slice?_append (before piece after : List Char) :
    slice? (byteLength before) (byteLength (before ++ piece)) (before ++ piece ++ after)
      = some piece := by
  unfold slice?
  rw [byteLength_append, if_pos (Nat.le_add_right _ _), List.append_assoc, dropBytes?_append,
    Option.bind_some, Nat.add_sub_cancel_left, takeBytes?_append]

/-- Of two starts of a text, the one of fewer bytes starts the other one. -/
theorem exists_append_of_byteLength_le {front back before rest : List Char}
    (htext : front ++ back = before ++ rest) (hle : byteLength front ≤ byteLength before) :
    ∃ middle, before = front ++ middle ∧ back = middle ++ rest := by
  rcases List.append_eq_append_iff.1 htext with hmiddle | ⟨middle, rfl, rfl⟩
  · exact hmiddle
  · cases middle with
    | nil => exact ⟨[], by simp, by simp⟩
    | cons c more =>
      have := Char.utf8Size_pos c
      rw [byteLength_append, byteLength_cons] at hle
      omega

/-! ## Splicing -/

/-- **Spans that fit are replaced, all of them.** -/
theorem spliced_fromCursor {replacements : List (Span × List Char)} (front back : List Char)
    (h : Fit (front ++ back) (replacements.map Prod.fst))
    (hstart : ∀ replacement ∈ replacements, byteLength front ≤ replacement.1.start) :
    Spliced (byteLength front) back replacements
        (fromCursor (front ++ back) (byteLength front) replacements).1
      ∧ (fromCursor (front ++ back) (byteLength front) replacements).2 = replacements.length := by
  induction replacements generalizing front back with
  | nil =>
    rw [fromCursor, dropBytes?_append]
    exact ⟨.nil, rfl⟩
  | cons first rest ih =>
    rcases first with ⟨⟨start, stop⟩, replacement⟩
    obtain ⟨before, piece, after, htext, hspanStart, hspanStop⟩ :=
      h.covers ⟨start, stop⟩ List.mem_cons_self
    have hle : byteLength front ≤ start := hstart _ List.mem_cons_self
    obtain rfl : start = byteLength before := hspanStart
    obtain rfl : stop = byteLength (before ++ piece) := hspanStop
    rw [List.append_assoc] at htext
    obtain ⟨middle, rfl, rfl⟩ := exists_append_of_byteLength_le htext hle
    -- The rest of the text is spliced after the piece.
    have hrest := ih (front ++ middle ++ piece) after
      ⟨fun span hmem => by
        simpa only [List.append_assoc] using h.covers span (List.mem_cons_of_mem _ hmem),
        (List.pairwise_cons.1 h.apart).2⟩
      fun other hmem => (List.pairwise_cons.1 h.apart).1 _ (List.mem_map_of_mem hmem)
    have hslice : slice? (byteLength front) (byteLength (front ++ middle))
        (front ++ (middle ++ (piece ++ after))) = some middle := by
      have := slice?_append front middle (piece ++ after)
      rwa [List.append_assoc] at this
    have htext : front ++ middle ++ piece ++ after = front ++ (middle ++ (piece ++ after)) := by
      simp only [List.append_assoc]
    rw [htext] at hrest
    rw [fromCursor]
    dsimp only
    rw [hslice]
    dsimp only
    refine ⟨?_, congrArg (· + 1) hrest.2⟩
    have hspliced := hrest.1
    rw [List.append_assoc front, byteLength_append front] at hspliced
    have hcons : Spliced (byteLength front) (middle ++ piece ++ after)
        ((⟨_, _⟩, replacement) :: rest) (middle ++ replacement ++ _) := .cons hspliced
    simpa only [byteLength_append, List.append_assoc, Nat.add_assoc] using hcons

end Splice

/-! ## Marker calls -/

/-- A marker call has the span of its call. -/
theorem Call.span_of_marker? {marker : String} {call : Call} {found : MarkerCall}
    (h : call.marker? marker = some found) : found.span = call.span := by
  unfold Call.marker? at h
  split at h
  · split at h <;> cases h <;> rfl
  · cases h

namespace MarkerRules

open Splice

variable {rules : MarkerRules} {index : PhraseIndex} {unit : SourceUnit} {calls : List MarkerCall}
  {rewriting : Rewriting}

/-- Calls in the order of their starts are found as they are. -/
theorem find_of_sorted {found : List Call}
    (hfound : rules.source.calls rules.marker unit = .ok found)
    (hmarkers : found.filterMap (Call.marker? rules.marker) = calls)
    (hsorted : calls.Pairwise fun first second => first.span.start ≤ second.span.start) :
    rules.find unit = .ok calls := by
  unfold find
  rw [hfound, ← hmarkers]
  refine congrArg Except.ok (List.mergeSort_of_pairwise ?_)
  rw [hmarkers]
  exact hsorted.imp decide_eq_true

/-- The marker calls of a unit lie in its text one after the other. -/
def Fits (rules : MarkerRules) (unit : SourceUnit) : Prop :=
  ∀ calls, rules.find unit = .ok calls → Fit unit.code.toList (calls.map (·.span))

/-- **The references of a rewriting are put in**, all of them, if the calls with a key fit. -/
theorem spliced_rewritingOf (rules : MarkerRules)
    (hfit : Fit unit.code.toList ((calls.filter (isResolved index)).map (·.span))) :
    Spliced 0 unit.code.toList
        ((referencesOf index calls).map fun (call, key) => (call.span, rules.reference call key))
        (rules.rewritingOf index unit calls).code.toList
      ∧ (rules.rewritingOf index unit calls).replaced = (referencesOf index calls).length := by
  obtain ⟨hspliced, hcount⟩ := spliced_fromCursor [] unit.code.toList
    (spans_referencesOf rules index calls ▸ hfit) fun _ _ => Nat.zero_le _
  rw [rewritingOf_eq, String.toList_ofList]
  exact ⟨hspliced, hcount.trans (List.length_map _)⟩

/-- Every one of some marker calls became a reference to its key, and nothing else changed. -/
structure RefersAll (rules : MarkerRules) (index : PhraseIndex) (unit : SourceUnit)
    (calls : List MarkerCall) (rewriting : Rewriting) : Prop where
  replaced : rewriting.replaced = calls.length
  references : ∃ references : List (MarkerCall × String), references.map Prod.fst = calls
    ∧ (∀ reference ∈ references,
      index.lookup? reference.1.namespaceName reference.1.phrase = some reference.2)
    ∧ Spliced 0 unit.code.toList
      (references.map fun (call, key) => (call.span, rules.reference call key))
      rewriting.code.toList

/-- **A rewriting that leaves nothing unresolved** refers to the key of every call of the unit, if
the calls fit. -/
theorem refersAll_of_unresolved_eq_nil (hfit : Fit unit.code.toList (calls.map (·.span)))
    (h : (rules.rewritingOf index unit calls).unresolved = []) :
    rules.RefersAll index unit calls (rules.rewritingOf index unit calls) := by
  have hresolved : calls.filter (isResolved index) = calls :=
    List.filter_eq_self.2 fun _ hmem => isSome_lookup?_of_unresolved_eq_nil h hmem
  have hcalls := (map_fst_referencesOf index calls).trans hresolved
  obtain ⟨hspliced, hcount⟩ := spliced_rewritingOf rules (hresolved.symm ▸ hfit)
  refine ⟨hcount.trans ?_, _, hcalls, fun reference hmem => (mem_referencesOf.1 hmem).2, hspliced⟩
  rw [← congrArg List.length hcalls, List.length_map]

end MarkerRules

end Phrasebook
