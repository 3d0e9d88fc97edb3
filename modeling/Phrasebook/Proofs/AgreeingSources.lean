import Phrasebook.Proofs.CallTexts
import Phrasebook.Rewriting

/-!
# Both call sources find a written call

A marker call as it is written is a whole script. Reading it as a text and reading it as a script
give the same marker call, with the same phrase, namespace, quotes, span and place, if the marker is
a word that a reference may use.

Results:
* `Script.calls?_writtenCall`, `Marker.Text.calls_eq_of_writtenCall`: the call in the tree and in
  the text.
* `MarkerRules.find_of_writtenCall`: both sources find the call, and nothing else.
-/

namespace Phrasebook

open Text

/-- The call of a written call. -/
def writtenCallAt (marker path phrase : String) (quote : Quote) (ns? : Option (String × Quote)) :
    Call where
  calleePath := [marker, "s"]
  arguments := writtenArguments phrase quote ns?
  span := ⟨0, (writtenCall marker phrase quote ns?).utf8ByteSize⟩
  location := ⟨path, 1, 1⟩
  sourceLine := writtenCall marker phrase quote ns?

theorem Text.splitAtOffset_zero (text : List Char) : splitAtOffset 0 text = ([], text) :=
  splitAtOffset_append [] text

/-- No line of a literal ends before its closing quote. -/
theorem Marker.Text.Inside.feed_notMem {quote : Char} {inside : List Char}
    (h : Inside quote inside) : '\n' ∉ inside := by
  induction h with
  | nil => exact List.not_mem_nil
  | plain hquote hbackslash hline more ih =>
    exact List.not_mem_cons_of_ne_of_not_mem (fun heq => hline (Or.inl heq.symm)) ih
  | escape hline more ih =>
    exact List.not_mem_cons_of_ne_of_not_mem (by decide)
      (List.not_mem_cons_of_ne_of_not_mem hline.symm ih)

/-- A written call is one line. -/
theorem feed_notMem_writtenCall {marker : String} (hmarker : Settings.isMarker marker = true)
    (phrase : String) (quote : Quote) (ns? : Option (String × Quote)) :
    '\n' ∉ (writtenCall marker phrase quote ns?).toList := by
  have hquoted : ∀ (text : String) (quote : Quote),
      '\n' ∉ Literal.quoteChars text.toList quote := by
    intro text quote
    have hinside := (Marker.Text.inside_flatMap_escape quote text.toList).feed_notMem
    have hquote : '\n' ≠ quote.char := by cases quote <;> decide
    simp only [Literal.quoteChars, List.mem_cons, List.mem_append, List.not_mem_nil, or_false,
      not_or]
    exact ⟨hquote, hinside, hquote⟩
  have hname : '\n' ∉ marker.toList := Settings.notMem_of_isMarker hmarker (by decide) (by decide)
  rw [toList_writtenCall]
  cases ns? <;> simp [hquoted, hname]

/-- The place of a call at the start of a text of one line. -/
theorem Text.between_nil {text : String} (h : '\n' ∉ text.toList) :
    Position.between [] text.toList = ⟨1, 1, text⟩
      ∧ Position.betweenMixed [] text.toList = ⟨1, 1, text⟩ := by
  have hline : text.toList.takeWhile (· != '\n') = text.toList := by
    have hall : ∀ c ∈ text.toList, (c != '\n') = true := fun c hc =>
      bne_iff_ne.2 fun heq => h (heq ▸ hc)
    have htake : (text.toList ++ []).takeWhile (· != '\n') = text.toList ++ _ :=
      List.takeWhile_append_of_pos hall
    simpa using htake
  have hfirst : firstLine text.toList = text.toList := by
    unfold firstLine
    dsimp only
    rw [hline, if_neg (by simp)]
  constructor
  · unfold Position.between
    simp [lastLine, hfirst]
  · unfold Position.betweenMixed
    simp [lastLine, hline, countLineEnds, unitLength]

/-- The call of a written call in its text. -/
theorem Marker.Text.calls_eq_of_writtenCall {marker : String}
    (hmarker : Settings.isMarker marker = true) (path phrase : String) (quote : Quote)
    (ns? : Option (String × Quote)) :
    calls marker ⟨path, writtenCall marker phrase quote ns?⟩
      = [writtenCallAt marker path phrase quote ns?] := by
  have hplace := (between_nil (feed_notMem_writtenCall hmarker phrase quote ns?)).1
  unfold calls
  dsimp only
  rw [find_writtenCall]
  simp only [List.filter_cons, Bool.not_false, if_true, List.filter_nil, List.map_cons,
    List.map_nil, splitAtOffset_zero, hplace]
  rfl

/-- The call of a written call in its tree. -/
theorem Script.calls?_writtenCall {marker : String} (hmarker : Settings.isMarker marker = true)
    (hreference : (Token.word marker).isReference = true) (path phrase : String) (quote : Quote)
    (ns? : Option (String × Quote)) :
    calls? marker ⟨path, writtenCall marker phrase quote ns?⟩
      = some [writtenCallAt marker path phrase quote ns?] := by
  have hplace := (between_nil (feed_notMem_writtenCall hmarker phrase quote ns?)).2
  have hcalls := (isCallText_writtenCall hmarker hreference phrase quote ns?).calls?_eq path
  rw [String.ofList_toList, byteLength_toList, map_argument_writtenNodes] at hcalls
  rw [hcalls]
  unfold Node.CallSite.call
  rw [splitAtOffset_zero]
  dsimp only
  rw [hplace]
  rfl

namespace MarkerRules

/-- The marker call of a written call. -/
theorem marker?_writtenCallAt (marker path phrase : String) (quote : Quote)
    (ns? : Option (String × Quote)) :
    (writtenCallAt marker path phrase quote ns?).marker? marker = some
      { phrase
        ns? := ns?.map Prod.fst
        quote
        span := ⟨0, (writtenCall marker phrase quote ns?).utf8ByteSize⟩
        location := ⟨path, 1, 1⟩
        sourceLine := writtenCall marker phrase quote ns? } := by
  cases ns? <;> exact if_pos rfl

/-- **Both call sources find a written call**, and nothing else: the marker call of its phrase and
its namespace, in the quotes of the phrase, at the start of the only line. -/
theorem find_of_writtenCall {rules : MarkerRules} (hmarker : Settings.isMarker rules.marker = true)
    (hreference : (Script.Token.word rules.marker).isReference = true) (source : CallSource)
    (path phrase : String) (quote : Quote) (ns? : Option (String × Quote)) :
    { rules with source := source }.find ⟨path, writtenCall rules.marker phrase quote ns?⟩
      = .ok [{ phrase
               ns? := ns?.map Prod.fst
               quote
               span := ⟨0, (writtenCall rules.marker phrase quote ns?).utf8ByteSize⟩
               location := ⟨path, 1, 1⟩
               sourceLine := writtenCall rules.marker phrase quote ns? }] := by
  have hcalls : source.calls rules.marker ⟨path, writtenCall rules.marker phrase quote ns?⟩
      = .ok [writtenCallAt rules.marker path phrase quote ns?] := by
    cases source with
    | text => exact congrArg _ (Marker.Text.calls_eq_of_writtenCall hmarker path phrase quote ns?)
    | tree =>
      unfold CallSource.calls
      dsimp only
      rw [Script.calls?_writtenCall hmarker hreference]
  unfold find
  dsimp only
  rw [hcalls]
  simp only [Except.map, List.filterMap_cons, marker?_writtenCallAt, List.filterMap_nil,
    List.mergeSort_singleton]

/-- The namespace stands in quotes of its own, and `async` is a name before a dot. -/
theorem find_small_of_writtenCall :
    Settings.isMarker "async" = true ∧ (Script.Token.word "async").isReference = true
      ∧ writtenCall "async" "it's" .single (some ("common", .double))
        = "async.s('it\\'s', \"common\")"
      ∧ ∀ source : CallSource,
        MarkerRules.find ⟨"async", ["common"], [], source⟩
            ⟨"src/app.ts", "async.s('it\\'s', \"common\")"⟩
          = .ok [⟨"it's", some "common", .single, ⟨0, 26⟩, ⟨"src/app.ts", 1, 1⟩,
              "async.s('it\\'s', \"common\")"⟩] := by
  have hmarker : Settings.isMarker "async" = true := by decide
  have hreference : (Script.Token.word "async").isReference = true := by decide
  have htext : writtenCall "async" "it's" .single (some ("common", .double))
      = "async.s('it\\'s', \"common\")" := by decide
  refine ⟨hmarker, hreference, htext, fun source => ?_⟩
  have hfind := @find_of_writtenCall ⟨"async", ["common"], [], .text⟩ hmarker hreference source
    "src/app.ts" "it's" .single (some ("common", .double))
  rw [htext] at hfind
  exact hfind

end MarkerRules

end Phrasebook
