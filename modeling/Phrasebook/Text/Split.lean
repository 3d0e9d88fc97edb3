/-!
# Splitting texts

The pieces of a text are what stands between its separators; a text without one is its only piece.

Results:
* `not_mem_of_mem_pieces`: no piece holds a separator.
* `length_pieces`: there is one more piece than there are separators.
* `pieces_append_cons`: the pieces around a separator.
-/

namespace Phrasebook.Text

/-- The characters between separators. -/
def pieces (separator : Char) : List Char → List (List Char)
  | [] => [[]]
  | c :: rest =>
    if c = separator then [] :: pieces separator rest
    else (c :: (pieces separator rest).headD []) :: (pieces separator rest).tail

/-- The texts between separators. -/
def split (separator : Char) (text : String) : List String :=
  (pieces separator text.toList).map String.ofList

theorem pieces_ne_nil (separator : Char) (text : List Char) : pieces separator text ≠ [] := by
  cases text with
  | nil => simp [pieces]
  | cons c rest =>
    rw [pieces]
    split <;> simp

theorem not_mem_of_mem_pieces {separator : Char} {text piece : List Char}
    (h : piece ∈ pieces separator text) : separator ∉ piece := by
  induction text generalizing piece with
  | nil => simp_all [pieces]
  | cons c rest ih =>
    obtain ⟨first, more, hrest⟩ := List.exists_cons_of_ne_nil (pieces_ne_nil separator rest)
    rw [hrest] at ih
    simp only [pieces, hrest, List.headD_cons, List.tail_cons] at h
    split at h
    · rcases List.mem_cons.1 h with rfl | h
      · simp
      · exact ih h
    · next hc =>
      rcases List.mem_cons.1 h with rfl | h
      · have hfirst := ih (List.mem_cons_self)
        simp [Ne.symm hc, hfirst]
      · exact ih (List.mem_cons_of_mem _ h)

variable {separator : Char}

theorem length_pieces (text : List Char) :
    (pieces separator text).length = text.count separator + 1 := by
  induction text with
  | nil => rfl
  | cons c rest ih =>
    obtain ⟨first, more, hrest⟩ := List.exists_cons_of_ne_nil (pieces_ne_nil separator rest)
    rw [hrest, List.length_cons] at ih
    rw [pieces, List.count_cons, hrest]
    by_cases hc : c = separator <;> simp [hc, ih]

/-! ## Texts around separators -/

/-- A text without a separator begins the first piece. -/
theorem pieces_append_of_not_mem {before : List Char} (h : separator ∉ before)
    (after : List Char) :
    pieces separator (before ++ after)
      = (before ++ (pieces separator after).headD []) :: (pieces separator after).tail := by
  induction before with
  | nil =>
    obtain ⟨first, more, hafter⟩ := List.exists_cons_of_ne_nil (pieces_ne_nil separator after)
    rw [List.nil_append, hafter]
    rfl
  | cons c rest ih =>
    rw [List.mem_cons, not_or] at h
    rw [List.cons_append, pieces, if_neg (Ne.symm h.1), ih h.2]
    rfl

theorem pieces_of_not_mem {text : List Char} (h : separator ∉ text) :
    pieces separator text = [text] := by
  have hpieces := pieces_append_of_not_mem h []
  rw [List.append_nil] at hpieces
  rw [hpieces, pieces, List.headD_cons, List.tail_cons, List.append_nil]

/-- The pieces around a separator. -/
theorem pieces_append_cons (before after : List Char) :
    pieces separator (before ++ separator :: after)
      = pieces separator before ++ pieces separator after := by
  induction before with
  | nil =>
    show pieces separator (separator :: after) = [] :: pieces separator after
    rw [pieces, if_pos rfl]
  | cons c rest ih =>
    obtain ⟨first, more, hrest⟩ := List.exists_cons_of_ne_nil (pieces_ne_nil separator rest)
    rw [List.cons_append, pieces, pieces, ih, hrest]
    split <;> rfl

/-- A text with a separator has a last one. -/
theorem exists_append_cons_of_mem {text : List Char} (h : separator ∈ text) :
    ∃ before after, text = before ++ separator :: after ∧ separator ∉ after := by
  obtain ⟨after, before, hreverse, hafter⟩ := List.eq_append_cons_of_mem (List.mem_reverse.2 h)
  refine ⟨before.reverse, after.reverse, ?_, fun hmem => hafter (List.mem_reverse.1 hmem)⟩
  rw [← List.reverse_reverse text, hreverse]
  simp

end Phrasebook.Text
