import Phrasebook.Proofs.Json.Quoted

/-!
# Written objects read back

The lines of a written object are read back entry by entry, by any reader of entries that reads
back what stands after a key. White space before a bracket, a key or a comma makes no difference.

Results:
* `Json.Reads`: a reader reads a text back and leaves what follows it.
* `Json.reads_text`: a quoted text is read back.
* `Json.reads_object`: a written object is read back as its entries, one after the other.
* `Json.toList_prettyAt_object`: the text of an object value has that form.
-/

namespace Phrasebook.Json

open Reader

variable {α β σ : Type}

/-- A reader reads a value from a text and leaves what follows. -/
def Reads (reader : Reader α) (text : List Char) (value : α) : Prop :=
  ∀ rest, StateT.run reader (text ++ rest) = .ok (value, rest)

/-! ## One reader after another -/

theorem run_bind_of_ok {reader : Reader α} {next : α → Reader β} {text rest : List Char}
    {value : α} (h : StateT.run reader text = .ok (value, rest)) :
    StateT.run (reader >>= next) text = StateT.run (next value) rest := by
  rw [StateT.run_bind, h]
  rfl

theorem Reads.bind {reader : Reader α} {next : α → Reader β} {first second : List Char}
    {value : α} {result : β} (hfirst : Reads reader first value)
    (hsecond : Reads (next value) second result) : Reads (reader >>= next) (first ++ second) result := by
  intro rest
  rw [List.append_assoc, run_bind_of_ok (hfirst (second ++ rest))]
  exact hsecond rest

theorem Reads.map {reader : Reader α} {text : List Char} {value : α} (h : Reads reader text value)
    (f : α → β) : Reads (do pure (f (← reader))) text (f value) := by
  intro rest
  rw [run_bind_of_ok (h rest)]
  rfl

/-! ## White space -/

/-- A line end and the indentation of a level. -/
def lineStart (level : Nat) : List Char := '\n' :: List.replicate (2 * level) ' '

theorem toList_lineBreak (level : Nat) : (lineBreak level).toList = lineStart level := by
  unfold lineBreak lineStart
  simp

/-- Nothing but white space. -/
def Blank (blanks : List Char) : Prop := ∀ c ∈ blanks, isBlank c = true

theorem blank_nil : Blank [] := fun _ h => absurd h List.not_mem_nil

theorem blank_space : Blank [' '] := by
  intro c hmem
  rw [List.mem_singleton.1 hmem]
  rfl

theorem blank_lineStart (level : Nat) : Blank (lineStart level) := by
  intro c hmem
  rcases List.mem_cons.1 hmem with rfl | hmem
  · rfl
  · rw [List.eq_of_mem_replicate hmem]
    rfl

/-- The next character is looked at past white space. -/
theorem run_peekOr {blanks : List Char} (hblank : Blank blanks) {c : Char}
    (hc : isBlank c = false) (defect : Defect) (rest : List Char) :
    StateT.run (peekOr defect) (blanks ++ c :: rest) = .ok (c, c :: rest) := by
  have hdrop : (blanks ++ c :: rest).dropWhile isBlank = c :: rest := by
    rw [List.dropWhile_append_of_pos hblank, List.dropWhile_cons_of_neg (by simp [hc])]
  unfold peekOr peek
  simp [hdrop]
  rfl

theorem run_peekOr_cons {c : Char} (hc : isBlank c = false) (defect : Defect) (rest : List Char) :
    StateT.run (peekOr defect) (c :: rest) = .ok (c, c :: rest) :=
  run_peekOr blank_nil hc defect rest

theorem run_skip (c : Char) (rest : List Char) :
    StateT.run skip (c :: rest) = .ok ((), rest) := rfl

/-! ## Entries -/

theorem reads_colon : Reads colon [':'] () := by
  intro rest
  unfold colon
  rw [List.singleton_append,
    run_bind_of_ok (run_peekOr_cons rfl .truncated rest), if_pos rfl]
  exact run_skip ':' rest

theorem run_closeObject {blanks : List Char} (hblank : Blank blanks) (rest : List Char) :
    StateT.run Reader.closeObject (blanks ++ '}' :: rest) = .ok ((), rest) := by
  unfold Reader.closeObject
  rw [run_bind_of_ok (run_peekOr hblank rfl .truncated rest), if_pos rfl]
  exact run_skip '}' rest

/-- The opening quote of a key leads to the key. -/
theorem run_quoted (key : String) (rest : List Char) :
    StateT.run (do skip; pure (some (← textBody false))) (quoteChars key ++ rest)
      = .ok (some key, rest) := by
  unfold quoteChars
  rw [List.cons_append, run_bind_of_ok (run_skip '"' _)]
  exact (Reads.map (run_textBody_quote key) some) rest

/-- **A quoted text is read back**, with white space before it. -/
theorem reads_text {blanks : List Char} (hblank : Blank blanks) (value : String) :
    Reads text (blanks ++ quoteChars value) value := by
  intro rest
  unfold text quoteChars
  rw [List.append_assoc, List.cons_append, run_bind_of_ok (run_peekOr hblank rfl .truncated _),
    if_pos rfl, run_bind_of_ok (run_skip '"' _)]
  exact run_textBody_quote value rest

theorem run_nextKey_first {blanks : List Char} (hblank : Blank blanks) (key : String)
    (rest : List Char) :
    StateT.run (nextKey true) (blanks ++ (quoteChars key ++ rest)) = .ok (some key, rest) := by
  have hquote := run_quoted key rest
  unfold quoteChars at hquote ⊢
  unfold nextKey
  rw [List.cons_append] at hquote ⊢
  rw [run_bind_of_ok (run_peekOr hblank rfl .truncated _), if_neg (by decide),
    if_pos rfl, if_pos rfl]
  exact hquote

theorem run_nextKey_later {blanks : List Char} (hblank : Blank blanks) (key : String)
    (rest : List Char) :
    StateT.run (nextKey false) (',' :: (blanks ++ (quoteChars key ++ rest)))
      = .ok (some key, rest) := by
  have hquote := run_quoted key rest
  unfold quoteChars at hquote ⊢
  unfold nextKey
  rw [List.cons_append] at hquote ⊢
  rw [run_bind_of_ok (run_peekOr_cons rfl .truncated _), if_neg (by decide),
    if_neg (by decide), if_pos rfl, run_bind_of_ok (run_skip ',' _),
    run_bind_of_ok (run_peekOr hblank rfl .truncated _), if_pos rfl]
  exact hquote

theorem run_nextKey_close {blanks : List Char} (hblank : Blank blanks) (first : Bool)
    (rest : List Char) :
    StateT.run (nextKey first) (blanks ++ '}' :: rest) = .ok (none, '}' :: rest) := by
  unfold nextKey
  rw [run_bind_of_ok (run_peekOr hblank rfl .truncated rest), if_pos rfl]
  rfl

/-! ## Objects -/

/-- The lines of the entries after the first one, each a key and what follows the key. -/
def laterLines (level : Nat) (items : List (String × List Char)) : List Char :=
  items.flatMap fun item => ',' :: (lineStart level ++ (quoteChars item.1 ++ item.2))

/-- The lines of an object. -/
def objectLines (level : Nat) : List (String × List Char) → List Char
  | [] => ['{', '}']
  | item :: rest =>
    '{' :: (lineStart (level + 1) ++ (quoteChars item.1 ++ (item.2
      ++ (laterLines (level + 1) rest ++ (lineStart level ++ ['}'])))))

section Object

variable {ι : Type} {entry : String → σ → Reader σ} {line : ι → String × List Char}
  {next : σ → ι → σ}

/-- One round of reading entries. -/
def entryStep (entry : String → σ → Reader σ) : σ × Bool → Reader ((σ × Bool) ⊕ σ) :=
  fun (state, first) => do
    match ← nextKey first with
    | none => pure (.inr state)
    | some key => do
      let state ← entry key state
      pure (.inl (state, false))

/-- A round that comes to an entry reads it. -/
theorem run_entryStep {key : String} {body : List Char} {state after : σ} {first : Bool}
    {text rest : List Char}
    (hkey : StateT.run (nextKey first) text = .ok (some key, body ++ rest))
    (hentry : Reads (entry key state) body after) :
    StateT.run (entryStep entry (state, first)) text = .ok (.inl (after, false), rest) := by
  unfold entryStep
  dsimp only
  rw [run_bind_of_ok hkey]
  dsimp only
  rw [run_bind_of_ok (hentry rest)]
  rfl

/-- A round that comes to the closing brace ends the reading. -/
theorem run_entryStep_close {blanks : List Char} (hblank : Blank blanks) (state : σ)
    (first : Bool) (rest : List Char) :
    StateT.run (entryStep entry (state, first)) (blanks ++ '}' :: rest)
      = .ok (.inr state, '}' :: rest) := by
  unfold entryStep
  dsimp only
  rw [run_bind_of_ok (run_nextKey_close hblank first rest)]
  rfl

theorem run_iterateFor_inl {step : σ → Reader (σ ⊕ α)} {state after : σ} {text rest : List Char}
    (h : StateT.run (step state) text = .ok (.inl after, rest)) (fuel : Nat) :
    StateT.run (iterateFor step (fuel + 1) state) text
      = StateT.run (iterateFor step fuel after) rest := by
  rw [iterateFor, run_bind_of_ok h]

theorem run_iterateFor_inr {step : σ → Reader (σ ⊕ α)} {state : σ} {value : α}
    {text rest : List Char} (h : StateT.run (step state) text = .ok (.inr value, rest))
    (fuel : Nat) :
    StateT.run (iterateFor step (fuel + 1) state) text = .ok (value, rest) := by
  rw [iterateFor, run_bind_of_ok h]
  rfl

/-- The entries after the first one are read by as many rounds, and one for the brace. -/
theorem run_laterLines
    (hentry : ∀ item state, Reads (entry (line item).1 state) (line item).2 (next state item))
    (level : Nat) {items : List ι}
    {blanks : List Char} (hblank : Blank blanks) (rest : List Char) {fuel : Nat}
    (hfuel : items.length < fuel) (state : σ) :
    StateT.run (iterateFor (entryStep entry) fuel (state, false))
        (laterLines level (items.map line) ++ (blanks ++ '}' :: rest))
      = .ok (items.foldl next state, '}' :: rest) := by
  induction items generalizing fuel state with
  | nil =>
    obtain ⟨fuel, rfl⟩ := Nat.exists_eq_add_of_lt hfuel
    exact run_iterateFor_inr (run_entryStep_close hblank state false rest) _
  | cons item items ih =>
    obtain ⟨fuel, rfl⟩ : ∃ left, fuel = left + 1 := ⟨fuel - 1, by simp at hfuel; omega⟩
    have hkey := run_nextKey_later (blank_lineStart level) (line item).1
      ((line item).2 ++ (laterLines level (items.map line) ++ (blanks ++ '}' :: rest)))
    have hstep := run_entryStep hkey (hentry item state)
    have htext : laterLines level ((item :: items).map line) ++ (blanks ++ '}' :: rest)
        = ',' :: (lineStart level ++ (quoteChars (line item).1 ++ ((line item).2 ++
            (laterLines level (items.map line) ++ (blanks ++ '}' :: rest))))) := by
      simp [laterLines]
    rw [htext, run_iterateFor_inl hstep, List.foldl_cons]
    exact ih (by simp at hfuel; omega) _

theorem length_le_laterLines (level : Nat) (items : List (String × List Char)) :
    items.length ≤ (laterLines level items).length := by
  induction items with
  | nil => exact Nat.le_refl 0
  | cons item items ih =>
    unfold laterLines at ih ⊢
    rw [List.flatMap_cons, List.length_append, List.length_cons, List.length_cons]
    omega

/-- The braces of an object, around entries that its rounds read. -/
theorem run_object_of_iterateFor {blanks : List Char} (hblank : Blank blanks) {state final : σ}
    {text rest : List Char}
    (h : StateT.run (iterateFor (entryStep entry) (text.length + 2) (state, true)) text
      = .ok (final, '}' :: rest)) :
    StateT.run (object entry state) (blanks ++ '{' :: text) = .ok (final, rest) := by
  have hiterate : StateT.run (iterate (entryStep entry) (state, true)) text
      = .ok (final, '}' :: rest) := h
  have hentries : StateT.run (entries entry state) text = .ok (final, rest) := by
    have hclose : StateT.run Reader.closeObject ('}' :: rest) = .ok ((), rest) :=
      run_closeObject blank_nil rest
    have hend : StateT.run (do Reader.closeObject; pure final) ('}' :: rest)
        = .ok (final, rest) := by
      rw [run_bind_of_ok hclose]
      rfl
    exact (run_bind_of_ok hiterate).trans hend
  unfold object
  rw [run_bind_of_ok (run_peekOr hblank rfl .truncated text), if_pos rfl,
    run_bind_of_ok (run_skip '{' text)]
  exact hentries

/-- **A written object is read back**, entry by entry. -/
theorem reads_object
    (hentry : ∀ item state, Reads (entry (line item).1 state) (line item).2 (next state item))
    {blanks : List Char} (hblank : Blank blanks) (level : Nat) (items : List ι) (state : σ) :
    Reads (object entry state) (blanks ++ objectLines level (items.map line))
      (items.foldl next state) := by
  intro rest
  rw [List.append_assoc]
  cases items with
  | nil => exact run_object_of_iterateFor hblank (run_iterateFor_inr
      (run_entryStep_close blank_nil state true rest) _)
  | cons item items =>
    let later := laterLines (level + 1) (items.map line) ++ (lineStart level ++ '}' :: rest)
    have hkey := run_nextKey_first (blank_lineStart (level + 1)) (line item).1
      ((line item).2 ++ later)
    have hstep := run_entryStep hkey (hentry item state)
    have hfuel : items.length < (lineStart (level + 1)
        ++ (quoteChars (line item).1 ++ ((line item).2 ++ later))).length + 1 := by
      have hlength := length_le_laterLines (level + 1) (items.map line)
      rw [List.length_map] at hlength
      simp only [later, List.length_append]
      omega
    have hlater := run_laterLines hentry (level + 1) (blank_lineStart level) rest hfuel
      (next state item)
    have htext : objectLines level ((item :: items).map line) ++ rest
        = '{' :: (lineStart (level + 1)
            ++ (quoteChars (line item).1 ++ ((line item).2 ++ later))) := by
      simp [objectLines, later]
    rw [htext, List.foldl_cons]
    refine run_object_of_iterateFor hblank ?_
    rw [run_iterateFor_inl hstep]
    exact hlater

end Object

/-! ## Written objects -/

theorem toList_intercalate_cons (separator first : String) (rest : List String) :
    (String.intercalate separator (first :: rest)).toList
      = first.toList ++ rest.flatMap fun item => separator.toList ++ item.toList := by
  induction rest generalizing first with
  | nil => simp
  | cons second rest ih =>
    rw [String.intercalate_cons_cons, String.toList_append, String.toList_append, ih second,
      List.flatMap_cons, List.append_assoc]
    simp only [List.append_assoc]

theorem toList_bracketedLines_cons (opening closing : String) (level : Nat) (first : String)
    (rest : List String) :
    (bracketedLines opening closing level (first :: rest)).toList
      = opening.toList ++ (lineStart (level + 1) ++ (first.toList
        ++ ((rest.flatMap fun item => ',' :: (lineStart (level + 1) ++ item.toList))
          ++ (lineStart level ++ closing.toList)))) := by
  have hseparator : ("," ++ lineBreak (level + 1)).toList = ',' :: lineStart (level + 1) := by
    rw [String.toList_append, toList_lineBreak]
    rfl
  rw [bracketedLines, if_neg (by simp)]
  rw [String.toList_append, String.toList_append, String.toList_append, String.toList_append,
    toList_intercalate_cons, hseparator, toList_lineBreak, toList_lineBreak]
  simp only [List.append_assoc, List.cons_append]

/-- What stands after the key of an entry. -/
def afterKey (level : Nat) (value : Value) : List Char :=
  ':' :: ' ' :: (value.prettyAt level).toList

theorem prettyEntries_eq (level : Nat) (entries : List (String × Value)) :
    Value.prettyEntries level entries
      = entries.map fun entry => quote entry.1 ++ ": " ++ entry.2.prettyAt level := by
  induction entries with
  | nil => rw [Value.prettyEntries, List.map_nil]
  | cons entry rest ih => rw [Value.prettyEntries, ih, List.map_cons]

theorem toList_entry (level : Nat) (entry : String × Value) :
    (quote entry.1 ++ ": " ++ entry.2.prettyAt level).toList
      = quoteChars entry.1 ++ afterKey level entry.2 := by
  rw [String.toList_append, String.toList_append, toList_quote, List.append_assoc]
  rfl

/-- **The text of an object value** has its entries on lines of their own. -/
theorem toList_prettyAt_object (level : Nat) (entries : List (String × Value)) :
    ((Value.object entries).prettyAt level).toList
      = objectLines level (entries.map fun entry => (entry.1, afterKey (level + 1) entry.2)) := by
  rw [Value.prettyAt, prettyEntries_eq]
  cases entries with
  | nil =>
    show (openObject ++ Json.closeObject).toList = ['{', '}']
    decide
  | cons entry rest =>
    rw [List.map_cons, List.map_cons, toList_bracketedLines_cons, toList_entry, objectLines,
      laterLines, List.flatMap_map, List.flatMap_map]
    simp only [toList_entry, List.append_assoc]
    rfl

end Phrasebook.Json
