import Phrasebook.Proofs.Json.Object

/-!
# Reading on in a longer text

A reader that has found its value does not look further. So it finds the same value in a longer
text, and what it leaves is longer by as much. A reader that ends with the end of a value, as that
of an object does, therefore reads no first part of the text of a value as another one.

Results:
* `Json.Extends.bind`: one reader after another reads on as both do.
* `Json.extends_object`: so do objects, if the readers of their entries do.
* `Json.eq_of_reads_of_run`: a first part of a text that is read back is read as the same value.
-/

namespace Phrasebook.Json

open Reader Text

variable {α β σ : Type}

/-- What a reader finds in a text it finds in every longer one. -/
def Extends (reader : Reader α) (text : List Char) : Prop :=
  ∀ value rest, StateT.run reader text = .ok (value, rest) →
    ∀ more, StateT.run reader (text ++ more) = .ok (value, rest ++ more)

/-! ## Single steps -/

theorem exists_of_run_bind {reader : Reader α} {next : α → Reader β} {text rest : List Char}
    {result : β} (h : StateT.run (reader >>= next) text = .ok (result, rest)) :
    ∃ value middle, StateT.run reader text = .ok (value, middle)
      ∧ StateT.run (next value) middle = .ok (result, rest) := by
  rw [StateT.run_bind] at h
  cases hrun : StateT.run reader text with
  | error defect => rw [hrun] at h; cases h
  | ok found => exact ⟨found.1, found.2, rfl, by rw [hrun] at h; exact h⟩

/-- **One reader after another reads on as both do.** -/
theorem Extends.bind {reader : Reader α} {next : α → Reader β} {text : List Char}
    (h : Extends reader text)
    (hnext : ∀ value rest, StateT.run reader text = .ok (value, rest) →
      Extends (next value) rest) : Extends (reader >>= next) text := by
  intro result rest hrun more
  obtain ⟨value, middle, hfirst, hsecond⟩ := exists_of_run_bind hrun
  rw [run_bind_of_ok (h value middle hfirst more)]
  exact hnext value middle hfirst result rest hsecond more

theorem extends_pure (value : α) (text : List Char) : Extends (pure value) text := by
  intro found rest h more
  cases h
  rfl

/-- A reader that never finds anything. -/
theorem extends_of_error {reader : Reader α} {text : List Char}
    (h : ∀ found, StateT.run reader text ≠ .ok found) : Extends reader text :=
  fun _ _ hrun => absurd hrun (h _)

theorem extends_throw (defect : Defect) (text : List Char) :
    Extends (throw defect : Reader α) text := extends_of_error fun _ => nofun

theorem extends_skip (c : Char) (rest : List Char) : Extends skip (c :: rest) := by
  intro value after h more
  cases h
  rfl

/-- What is looked at is the first character that is left. -/
theorem exists_of_run_peekOr {defect : Defect} {text rest : List Char} {c : Char}
    (h : StateT.run (peekOr defect) text = .ok (c, rest)) :
    ∃ blanks tail, Blank blanks ∧ Reader.isBlank c = false ∧ text = blanks ++ c :: tail
      ∧ rest = c :: tail := by
  unfold peekOr peek at h
  simp only [StateT.run_bind, StateT.run_set, StateT.run_get] at h
  dsimp only [bind, Except.bind, pure, Except.pure] at h
  cases hdrop : text.dropWhile Reader.isBlank with
  | nil =>
    rw [hdrop] at h
    cases h
  | cons d tail =>
    rw [hdrop] at h
    cases h
    have hd : Reader.isBlank c = false := by
      have hhead := List.head?_dropWhile_not Reader.isBlank text
      rw [hdrop] at hhead
      simpa using hhead
    refine ⟨text.takeWhile Reader.isBlank, tail, fun b hb => ?_, hd, ?_, rfl⟩
    · exact List.all_eq_true.1 List.all_takeWhile b hb
    · rw [← hdrop, List.takeWhile_append_dropWhile]

theorem extends_peekOr (defect : Defect) (text : List Char) : Extends (peekOr defect) text := by
  intro c rest h more
  obtain ⟨blanks, tail, hblank, hc, rfl, rfl⟩ := exists_of_run_peekOr h
  rw [List.append_assoc]
  exact run_peekOr hblank hc defect (tail ++ more)

/-- After a look at the next character, that is what is read first. -/
theorem extends_peekOr_bind {defect : Defect} {next : Char → Reader α} {text : List Char}
    (h : ∀ c tail, Extends (next c) (c :: tail)) : Extends (peekOr defect >>= next) text :=
  (extends_peekOr defect text).bind fun c rest hrun => by
    obtain ⟨-, tail, -, -, -, rfl⟩ := exists_of_run_peekOr hrun
    exact h c tail

theorem extends_skip_bind {next : Unit → Reader α} {c : Char} {rest : List Char}
    (h : ∀ tail, Extends (next ()) tail) : Extends (skip >>= next) (c :: rest) :=
  (extends_skip c rest).bind fun _ tail _ => h tail

/-! ## Texts and punctuation -/

/-- What is found in a text, against what is found where `more` follows. -/
def Resumes (more : List Char) (short long : Except Defect (List Char × List Char)) : Prop :=
  ∀ found rest, short = .ok (found, rest) → long = .ok (found, rest ++ more)

section Resumes

variable {more : List Char} {short long short' long' : Except Defect (List Char × List Char)}

theorem resumes_error (defect : Defect) : Resumes more (.error defect) long :=
  fun _ _ h => nomatch h

theorem resumes_ok (found rest : List Char) :
    Resumes more (.ok (found, rest)) (.ok (found, rest ++ more)) := by
  intro _ _ h
  cases h
  rfl

theorem Resumes.ite {p : Prop} [Decidable p] (hthen : Resumes more short long)
    (helse : Resumes more short' long') :
    Resumes more (if p then short else short') (if p then long else long') := by
  split
  · exact hthen
  · exact helse

/-- Bytes that follow do so in the longer text. -/
theorem Resumes.following (h : Resumes more short long) (count : Nat) (tail : List Char) :
    Resumes more (if byteLength tail < count then .error .truncated else short)
      (if byteLength (tail ++ more) < count then .error .truncated else long) := by
  split
  · exact resumes_error _
  · rw [if_neg (by rw [byteLength_append]; omega)]
    exact h

/-- A character that is part of the text stands before what is found in the rest. -/
theorem Resumes.part (h : Resumes more short long) (c : Char) :
    Resumes more (short.map fun found => (c :: found.1, found.2))
      (long.map fun found => (c :: found.1, found.2)) := by
  intro found rest hmap
  cases hshort : short with
  | error defect => rw [hshort] at hmap; cases hmap
  | ok part =>
    rw [hshort] at hmap
    cases hmap
    rw [h part.1 part.2 hshort]
    rfl

end Resumes

theorem resumes_textFrom (passing : Bool) (state : TextState) (text more : List Char) :
    Resumes more (textFrom passing state text) (textFrom passing state (text ++ more)) := by
  induction text generalizing state with
  | nil => cases state <;> exact resumes_error _
  | cons c tail ih =>
    cases state with
    | plain =>
      rw [List.cons_append, textFrom, textFrom]
      exact .ite (resumes_ok [] tail) (.ite (ih _) (.ite (resumes_error _) ((ih _).part c)))
    | escape =>
      rw [List.cons_append, textFrom, textFrom]
      refine .ite ((ih _).following 4 tail) ?_
      cases escaped? c with
      | none => exact resumes_error _
      | some d => exact (ih _).part d
    | digits left value high? =>
      rw [List.cons_append, textFrom, textFrom]
      cases Literal.hexDigit? c with
      | none => exact resumes_error _
      | some digit =>
        refine .ite (ih _) (.ite (ih _) ?_)
        cases high? with
        | some high => exact .ite ((ih _).part _) (resumes_error _)
        | none => exact .ite (resumes_error _) (.ite (ih _) ((ih _).part _))
    | paired high =>
      rw [List.cons_append, textFrom, textFrom]
      exact .ite (ih _) (resumes_error _)
    | pairedEscape high =>
      rw [List.cons_append, textFrom, textFrom]
      exact .ite ((ih _).following 4 tail) (resumes_error _)

theorem run_textBody (passing : Bool) (text : List Char) :
    StateT.run (textBody passing) text
      = (textFrom passing .plain text).map fun found => (String.ofList found.1, found.2) := by
  unfold textBody
  rw [StateT.run_bind, StateT.run_get]
  dsimp only [bind, Except.bind, pure, Except.pure]
  cases textFrom passing .plain text <;> rfl

theorem extends_textBody (passing : Bool) (text : List Char) : Extends (textBody passing) text := by
  intro value rest h more
  rw [run_textBody] at h ⊢
  cases hfound : textFrom passing .plain text with
  | error defect => rw [hfound] at h; cases h
  | ok found =>
    rw [hfound] at h
    cases h
    rw [resumes_textFrom passing .plain text more found.1 found.2 hfound]
    rfl

/-- A value of the wrong shape is never what was wanted. -/
theorem extends_mismatch (text : List Char) : Extends (mismatch : Reader α) text := by
  have hnever : ∀ (reader : Reader Unit) (text : List Char) found,
      StateT.run (reader >>= fun _ => (throw .mismatched : Reader α)) text ≠ .ok found := by
    rintro reader text ⟨value, rest⟩ hrun
    obtain ⟨_, _, -, hthrow⟩ := exists_of_run_bind hrun
    cases hthrow
  refine extends_peekOr_bind fun c tail => extends_of_error fun found => ?_
  -- Whatever is passed over, the reading ends with a defect.
  repeat' split
  all_goals first
    | exact hnever _ _ found
    | exact nofun

theorem extends_text (text : List Char) : Extends Reader.text text :=
  extends_peekOr_bind fun c tail => by
    split
    · exact extends_skip_bind fun tail => extends_textBody false tail
    · exact extends_mismatch _

theorem extends_colon (text : List Char) : Extends colon text :=
  extends_peekOr_bind fun c tail => by
    split
    · exact extends_skip c tail
    · exact extends_throw _ _

theorem extends_closeObject (text : List Char) : Extends Reader.closeObject text :=
  extends_peekOr_bind fun c tail => by
    split
    · exact extends_skip c tail
    · exact extends_throw _ _

theorem extends_nextKey (first : Bool) (text : List Char) : Extends (nextKey first) text := by
  have hkey : ∀ c tail, Extends (do skip; pure (some (← textBody false))) (c :: tail) :=
    fun c tail => extends_skip_bind fun rest =>
      (extends_textBody false rest).bind fun _ _ _ => extends_pure _ _
  refine extends_peekOr_bind fun c tail => ?_
  split
  · exact extends_pure _ _
  · split
    · split
      · exact hkey c tail
      · exact extends_throw _ _
    · split
      · refine extends_skip_bind fun rest => extends_peekOr_bind fun d more => ?_
        split
        · exact hkey d more
        · exact extends_throw _ _
      · exact extends_throw _ _

/-! ## Objects -/

/-- Reading in rounds reads on if each round does, and more rounds change nothing. -/
theorem run_iterateFor_append {step : σ → Reader (σ ⊕ α)}
    (hstep : ∀ state text, Extends (step state) text) {fuel more : Nat} (hfuel : fuel ≤ more)
    {state : σ} {text rest : List Char} {value : α}
    (h : StateT.run (iterateFor step fuel state) text = .ok (value, rest)) (tail : List Char) :
    StateT.run (iterateFor step more state) (text ++ tail) = .ok (value, rest ++ tail) := by
  induction fuel generalizing more state text with
  | zero => cases h
  | succ fuel ih =>
    obtain ⟨more, rfl⟩ := Nat.exists_eq_add_of_le' (Nat.lt_of_lt_of_le (Nat.succ_pos fuel) hfuel)
    rw [iterateFor] at h
    obtain ⟨next, middle, hround, hrest⟩ := exists_of_run_bind h
    have hlonger := hstep state text next middle hround tail
    cases next with
    | inl after =>
      rw [run_iterateFor_inl hlonger]
      exact ih (Nat.le_of_succ_le_succ hfuel) hrest
    | inr found =>
      cases hrest
      exact run_iterateFor_inr hlonger more

theorem extends_iterate {step : σ → Reader (σ ⊕ α)}
    (hstep : ∀ state text, Extends (step state) text) (state : σ) (text : List Char) :
    Extends (iterate step state) text := by
  intro value rest h more
  have hlength : text.length + 2 ≤ (text ++ more).length + 2 := by
    rw [List.length_append]
    omega
  exact run_iterateFor_append hstep hlength h more

/-- **Objects read on** if the readers of their entries do. -/
theorem extends_object {entry : String → σ → Reader σ}
    (hentry : ∀ key state text, Extends (entry key state) text) (state : σ) (text : List Char) :
    Extends (object entry state) text := by
  have hstep : ∀ (state : σ × Bool) text, Extends (entryStep entry state) text := by
    rintro ⟨state, first⟩ text
    refine (extends_nextKey first text).bind fun key? rest _ => ?_
    cases key? with
    | none => exact extends_pure _ _
    | some key => exact (hentry key state rest).bind fun _ _ _ => extends_pure _ _
  have hentries : ∀ text, Extends (entries entry state) text := fun text =>
    (extends_iterate hstep (state, true) text).bind fun _ rest _ =>
      (extends_closeObject rest).bind fun _ _ _ => extends_pure _ _
  refine extends_peekOr_bind fun c tail => ?_
  split
  · exact extends_skip_bind fun rest => hentries rest
  · exact extends_mismatch _

/-! ## First parts -/

/-- **A first part of a text that is read back**, and of what follows it, is read as the same value
or not at all. -/
theorem eq_of_reads_of_run {reader : Reader α} {text front back tail rest : List Char}
    {value found : α} (hreads : Reads reader text value) (htext : text ++ tail = front ++ back)
    (hextends : Extends reader front) (hrun : StateT.run reader front = .ok (found, rest)) :
    found = value := by
  have hlonger := hextends found rest hrun back
  rw [← htext, hreads tail] at hlonger
  cases hlonger
  rfl

end Phrasebook.Json
