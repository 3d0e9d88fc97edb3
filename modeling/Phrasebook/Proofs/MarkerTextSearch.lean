import Mathlib.Data.List.Forall2
import Phrasebook.Proofs.Literal
import Phrasebook.Proofs.MarkerText
import Phrasebook.Proofs.Splicing

/-!
# Searching for marker texts

A search goes from left to right. At each place at most one marker text starts, since what is read
there decides where it ends. A visited marker text is the next one that starts where the one before
has ended or later; one that belongs to another name is visited as well, and takes its characters
with it, but gives no call.

Results:
* `Marker.Text.Stands.unique`: at each place at most one marker text stands.
* `Marker.Text.visits_find`: a search visits the next marker text, and the next one after it, to the
  end of the text.
* `Marker.Text.calls_exact`: the calls of a unit are the visited marker texts that belong to no
  other name.
* `MarkerRules.fits_of_text`: the marker calls found in a text lie in it one after the other.
-/

namespace Phrasebook

namespace Marker.Text

open Phrasebook.Text Splice

/-! ## Places of marker texts -/

/-- A marker text stands in a text between these ends, after the end of another name or not. -/
def Stands (marker code : List Char) (found : Found) : Prop :=
  ∃ before text after, code = before ++ text ++ after
    ∧ IsMarkerText marker found.arguments text
    ∧ found.start = byteLength before ∧ found.stop = byteLength (before ++ text)
    ∧ found.joined = before.getLast?.any joinsName

variable {marker code : List Char} {found : Found}

theorem Stands.covers (h : Stands marker code found) : Covers code ⟨found.start, found.stop⟩ := by
  obtain ⟨before, text, after, hcode, -, hstart, hstop, -⟩ := h
  exact ⟨before, text, after, hcode, hstart, hstop⟩

theorem IsMarkerText.byteLength_pos {arguments : List Argument} {text : List Char}
    (h : IsMarkerText marker arguments text) : 0 < byteLength text := by
  obtain ⟨before, rfl⟩ := h.exists_eq_concat
  rw [byteLength_append]
  exact Nat.lt_of_lt_of_le (Char.utf8Size_pos ')') (Nat.le_add_left _ _)

theorem Stands.start_lt_stop (h : Stands marker code found) : found.start < found.stop := by
  obtain ⟨before, text, after, -, htext, hstart, hstop, -⟩ := h
  rw [hstart, hstop, byteLength_append]
  exact Nat.lt_add_of_pos_right htext.byteLength_pos

/-- Two starts of a text with as many bytes are the same. -/
theorem eq_of_byteLength_eq {front back before rest : List Char}
    (htext : front ++ back = before ++ rest) (hlength : byteLength front = byteLength before) :
    front = before ∧ back = rest := by
  obtain ⟨middle, rfl, rfl⟩ := exists_append_of_byteLength_le htext (Nat.le_of_eq hlength)
  cases middle with
  | nil => exact ⟨(List.append_nil front).symm, rfl⟩
  | cons c more =>
    have := Char.utf8Size_pos c
    rw [byteLength_append, byteLength_cons] at hlength
    omega

/-- What stands at a place is what is read there. -/
theorem Stands.readHere? (h : Stands marker code found) {front back : List Char}
    (hcode : code = front ++ back) (hstart : found.start = byteLength front) :
    ∃ text after, back = text ++ after ∧ readHere? marker back = some (found.arguments, after)
      ∧ found.stop = byteLength front + byteLength text
      ∧ found.joined = front.getLast?.any joinsName := by
  obtain ⟨before, text, after, hsame, htext, hbefore, hstop, hjoined⟩ := h
  rw [hcode, List.append_assoc] at hsame
  obtain ⟨rfl, rfl⟩ := eq_of_byteLength_eq hsame (hstart.symm.trans hbefore)
  exact ⟨text, after, rfl, readHere?_eq_some_iff.2 ⟨text, htext, rfl⟩,
    hstop.trans (byteLength_append _ _), hjoined⟩

/-- **At each place at most one marker text stands.** -/
theorem Stands.unique {other : Found} (h : Stands marker code found)
    (hother : Stands marker code other) (hstart : found.start = other.start) : found = other := by
  obtain ⟨before, text, after, hcode, -, hbefore, -, -⟩ := id h
  rw [List.append_assoc] at hcode
  obtain ⟨piece, rest, hpiece, hread, hstop, hjoined⟩ := h.readHere? hcode hbefore
  obtain ⟨piece', rest', hpiece', hread', hstop', hjoined'⟩ :=
    hother.readHere? hcode (hstart.symm.trans hbefore)
  rw [hread] at hread'
  obtain ⟨harguments, rfl⟩ := Prod.mk.inj (Option.some.inj hread')
  obtain rfl := List.append_cancel_right (hpiece.symm.trans hpiece')
  cases found
  cases other
  simp_all

/-! ## Visited marker texts -/

/-- These marker texts are visited from an offset on: always the next one that stands there or
later, until there is none. -/
inductive Visits (marker code : List Char) : Nat → List Found → Prop
  | nil {offset : Nat} (hnone : ∀ other, Stands marker code other → other.start < offset) :
      Visits marker code offset []
  | cons {offset : Nat} {found : Found} {rest : List Found} (hstands : Stands marker code found)
      (hfrom : offset ≤ found.start)
      (hnext : ∀ other, Stands marker code other → offset ≤ other.start →
        found.start ≤ other.start)
      (more : Visits marker code found.stop rest) : Visits marker code offset (found :: rest)

namespace Visits

variable {offset : Nat} {visited : List Found}

/-- A visit may start earlier if nothing stands in between. -/
theorem of_le {earlier : Nat} (h : Visits marker code offset visited) (hle : earlier ≤ offset)
    (hnone : ∀ other, Stands marker code other → earlier ≤ other.start → offset ≤ other.start) :
    Visits marker code earlier visited := by
  cases h with
  | nil hempty =>
    refine .nil fun other hother => Nat.lt_of_not_le fun hfrom => ?_
    exact Nat.not_lt.2 (hnone other hother hfrom) (hempty other hother)
  | cons hstands hfrom hnext more =>
    exact .cons hstands (Nat.le_trans hle hfrom)
      (fun other hother hother' => hnext other hother (hnone other hother hother')) more

theorem stands (h : Visits marker code offset visited) :
    ∀ found ∈ visited, Stands marker code found := by
  induction h with
  | nil => exact nofun
  | cons hstands _ _ _ ih => exact List.forall_mem_cons.2 ⟨hstands, ih⟩

theorem from_le (h : Visits marker code offset visited) :
    ∀ found ∈ visited, offset ≤ found.start := by
  induction h with
  | nil => exact nofun
  | cons hstands hfrom _ _ ih =>
    refine List.forall_mem_cons.2 ⟨hfrom, fun found hmem => ?_⟩
    exact Nat.le_trans hfrom (Nat.le_trans (Nat.le_of_lt hstands.start_lt_stop) (ih found hmem))

/-- Visited marker texts stand one after the other. -/
theorem apart (h : Visits marker code offset visited) :
    visited.Pairwise fun first second => first.stop ≤ second.start := by
  induction h with
  | nil => exact .nil
  | cons _ _ _ more ih => exact .cons more.from_le ih

end Visits

/-- No marker text starts inside a character, nor where none is read. -/
theorem start_ge_of_readHere?_eq_none {front rest : List Char} {c : Char} {other : Found}
    (hcode : code = front ++ c :: rest) (hnone : readHere? marker (c :: rest) = none)
    (hother : Stands marker code other) (hfrom : byteLength front ≤ other.start) :
    byteLength (front ++ [c]) ≤ other.start := by
  obtain ⟨before, text, after, hsame, htext, hbefore, -⟩ := id hother
  rw [hbefore] at hfrom ⊢
  rw [hcode, List.append_assoc] at hsame
  obtain ⟨middle, rfl, hmiddle⟩ := exists_append_of_byteLength_le hsame hfrom
  cases middle with
  | nil =>
    obtain ⟨_, _, -, hread, -⟩ := hother.readHere? hcode (by rw [hbefore, List.append_nil])
    rw [hnone] at hread
    cases hread
  | cons d middle =>
    obtain ⟨rfl, -⟩ := List.cons.inj hmiddle
    simp only [byteLength_append, byteLength_cons, byteLength_nil]
    omega

/-- The marker texts among the parts of a text are visited from where the parts begin. -/
theorem visits_foundIn {pieces : List Piece} (h : Scans marker pieces) (front : List Char)
    (hcode : code = front ++ textOf pieces) :
    Visits marker code (byteLength front)
      (foundIn (byteLength front) front.getLast? pieces) := by
  induction h generalizing front with
  | nil =>
    refine .nil fun other hother => ?_
    obtain ⟨before, text, after, hsame, -, -, hstop, -⟩ := id hother
    rw [textOf_nil, List.append_nil] at hcode
    have hlength := congrArg byteLength (hcode.symm.trans hsame)
    rw [byteLength_append, ← hstop] at hlength
    have := hother.start_lt_stop
    omega
  | @plain c rest hnone _ ih =>
    have hmore := ih (front ++ [c]) (by rw [hcode, textOf_plain, List.append_cons])
    rw [List.getLast?_concat, byteLength_append] at hmore
    refine hmore.of_le (Nat.le_add_right _ _) fun other hother hfrom => ?_
    rw [← byteLength_append]
    exact start_ge_of_readHere?_eq_none hcode hnone hother hfrom
  | @marked arguments text rest htext _ ih =>
    have hmore := ih (front ++ text) (by rw [hcode, textOf_marked, List.append_assoc])
    rw [List.getLast?_append, byteLength_append] at hmore
    refine .cons ⟨front, text, textOf rest, ?_, htext, rfl, ?_, rfl⟩ (Nat.le_refl _)
      (fun _ _ hfrom => hfrom) hmore
    · rw [hcode, textOf_marked, List.append_assoc]
    · rw [byteLength_append]

/-- **A search visits all marker texts** of a text from left to right. -/
theorem visits_find (marker : String) (code : List Char) :
    Visits marker.toList code 0 (find marker code) := by
  obtain ⟨pieces, hscans, rfl⟩ := exists_scans marker.toList code
  rw [find, findFrom_textOf hscans]
  exact visits_foundIn hscans [] rfl

/-! ## Calls -/

/-- The argument of a literal is the text that the literal has, if it has one. -/
theorem literalArgument_eq (quote : Quote) (inside : List Char) :
    literalArgument quote inside
      = (Literal.unquote (String.ofList (quote.char :: (inside ++ [quote.char])))).elim .other
        (Argument.text · quote) := by
  unfold literalArgument
  rw [Literal.unquote_between]
  cases Literal.unquoteFrom .plain inside <;> rfl

/-- A call is the call of a marker text. -/
structure CallOf (marker : String) (call : Call) (found : Found) : Prop where
  calleePath : call.calleePath = [marker, "s"]
  arguments : call.arguments = found.arguments
  span : call.span = ⟨found.start, found.stop⟩

theorem forall₂_calls (marker : String) (unit : SourceUnit) :
    List.Forall₂ (CallOf marker) (calls marker unit)
      ((find marker unit.code.toList).filter (!·.joined)) := by
  unfold calls
  dsimp only
  rw [List.forall₂_map_left_iff, List.forall₂_same]
  exact fun found _ => ⟨rfl, rfl, rfl⟩

theorem calls_apart (marker : String) (unit : SourceUnit) :
    (calls marker unit).Pairwise fun first second => first.span.stop ≤ second.span.start :=
  List.pairwise_map.2 ((visits_find marker unit.code.toList).apart.filter _)

/-- **The calls of a unit are exactly its marker texts.** At each place at most one stands, they are
visited from left to right, and those that belong to no other name are the calls, with an argument
for each literal. -/
theorem calls_exact (marker : String) (unit : SourceUnit) :
    (∀ first second, Stands marker.toList unit.code.toList first →
        Stands marker.toList unit.code.toList second → first.start = second.start →
          first = second)
      ∧ (∃ visited, Visits marker.toList unit.code.toList 0 visited
        ∧ List.Forall₂ (CallOf marker) (calls marker unit) (visited.filter (!·.joined)))
      ∧ ((calls marker unit).Pairwise fun first second => first.span.stop ≤ second.span.start)
      ∧ ∀ quote inside, literalArgument quote inside
        = (Literal.unquote (String.ofList (quote.char :: (inside ++ [quote.char])))).elim .other
          (Argument.text · quote) :=
  ⟨fun _ _ hfirst hsecond hstart => hfirst.unique hsecond hstart,
    ⟨_, visits_find marker unit.code.toList, forall₂_calls marker unit⟩,
    calls_apart marker unit, literalArgument_eq⟩

-- A marker text that belongs to another name takes its characters with it.
example :
    (calls "i18n" ⟨"a.vue", "my.i18n.s('i18n.s(\"a\")') i18n . s( \"b\", )"⟩).map (·.arguments)
      = [[.text "b" .double]] := by
  decide +kernel

end Marker.Text

/-! ## Marker calls -/

namespace MarkerRules

open Splice

variable {rules : MarkerRules}

/-- The marker calls among the marker texts of a text lie in it one after the other. -/
theorem fit_calls (marker : String) (unit : SourceUnit) :
    Fit unit.code.toList (((Marker.Text.calls marker unit).filterMap (Call.marker? marker)).map
      (·.span)) := by
  have hvisits := Marker.Text.visits_find marker unit.code.toList
  have hspans : ∀ call ∈ Marker.Text.calls marker unit, Covers unit.code.toList call.span := by
    intro call hmem
    obtain ⟨found, hfound, rfl⟩ := List.mem_map.1 hmem
    exact (hvisits.stands found (List.mem_filter.1 hfound).1).covers
  refine ⟨fun span hmem => ?_, List.pairwise_map.2 ?_⟩
  · obtain ⟨call, hcall, rfl⟩ := List.mem_map.1 hmem
    obtain ⟨origin, horigin, hmarker⟩ := List.mem_filterMap.1 hcall
    rw [Call.span_of_marker? hmarker]
    exact hspans origin horigin
  · have hcallsApart := Marker.Text.calls_apart marker unit
    refine hcallsApart.filterMap _ fun first second hle found hfound other hother => ?_
    rw [Call.span_of_marker? hfound, Call.span_of_marker? hother]
    exact hle

/-- The marker calls of a text are already in the order of their starts. -/
theorem find_of_text (hsource : rules.source = .text) (unit : SourceUnit) :
    rules.find unit
      = .ok ((Marker.Text.calls rules.marker unit).filterMap (Call.marker? rules.marker)) := by
  have hfit := fit_calls rules.marker unit
  refine find_of_sorted (by rw [hsource]; rfl) rfl ?_
  refine (List.pairwise_map.1 hfit.apart).imp_of_mem fun hfirst _ hle => ?_
  exact Nat.le_trans (hfit.covers _ (List.mem_map_of_mem hfirst)).start_le_stop hle

/-- **Marker calls that are found in a text fit.** -/
theorem fits_of_text (hsource : rules.source = .text) (unit : SourceUnit) : rules.Fits unit := by
  intro calls hcalls
  rw [find_of_text hsource] at hcalls
  cases hcalls
  exact fit_calls rules.marker unit

end MarkerRules

end Phrasebook
