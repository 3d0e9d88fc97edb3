import Phrasebook.Literal

/-!
# Literals are read back

A quoted text is read back as it was, whatever its characters are and whichever quotes it stands
in.

Results:
* `Literal.unquote_quoteChars`: the text of a quoted text.
-/

namespace Phrasebook.Literal

/-- What is written for one character is read as that character. -/
theorem unquoteFrom_escape (quote : Quote) (c : Char) (rest : List Char) :
    unquoteFrom .plain (escape quote c ++ rest) = (unquoteFrom .plain rest).map (c :: ·) := by
  unfold escape
  split
  · next hc => subst hc; rfl
  split
  · next hc => subst hc; rfl
  split
  · next hc => subst hc; rfl
  split
  · next hc => subst hc; rfl
  split
  · next hc => subst hc; rfl
  split
  · next hc =>
    subst hc
    cases quote <;> rfl
  · next hbackslash _ _ _ _ _ =>
    rw [List.singleton_append, unquoteFrom, if_neg hbackslash]

theorem unquoteFrom_flatMap_escape (quote : Quote) (text : List Char) :
    unquoteFrom .plain (text.flatMap (escape quote)) = some text := by
  induction text with
  | nil => rfl
  | cons c rest ih => rw [List.flatMap_cons, unquoteFrom_escape, ih, Option.map_some]

/-- The text of a literal is read between its quotes. -/
theorem unquote_between (quote : Quote) (inside : List Char) :
    unquote (String.ofList (quote.char :: (inside ++ [quote.char])))
      = (unquoteFrom .plain inside).map String.ofList := by
  unfold unquote
  rw [String.toList_ofList]
  obtain ⟨c, rest, hcons⟩ := List.exists_cons_of_ne_nil
    (List.append_ne_nil_of_right_ne_nil inside (List.cons_ne_nil quote.char []))
  rw [hcons]
  dsimp only
  rw [← hcons, List.dropLast_concat]

/-- **A quoted text is read back.** -/
theorem unquote_quoteChars (text : List Char) (quote : Quote) :
    unquote (String.ofList (quoteChars text quote)) = some (String.ofList text) := by
  unfold quoteChars
  rw [unquote_between, unquoteFrom_flatMap_escape, Option.map_some]

end Phrasebook.Literal
