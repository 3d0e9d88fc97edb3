import Phrasebook.Proofs.EscapeSequences
import Phrasebook.Proofs.Literal

/-!
# Literals and their values

Literals are read one escape sequence after another. So a well-formed literal has its value exactly
if each piece of it stands for a character of its own: half of a surrogate pair does not, for which
the literal is refused, nor an end of line after a backslash, which is kept. A malformed escape
sequence is refused, but for those that are tolerated: a plus sign stands for the first digit, or the
end of the literal cuts the digits short.

Results:
* `Literal.unquoteFrom_of_escape`: what is read of an escape sequence.
* `Literal.exists_unquoteFrom_of_spelled`, `Literal.outgrows_of_spelled`: a literal of characters has
  its value, and no other well-formed one has.
* `Literal.unquoteFrom_eq_none_of_not_tolerated`, `Literal.exists_unquoteFrom_of_tolerated`: which
  malformed escape sequences are refused and which ones are read.
* `Literal.unquote_exact`: all of this for literals between quotes.
-/

namespace Phrasebook.Literal

open Text Marker.Text

/-! ## Digits -/

/-- An escape sequence with a number of digits takes as many characters, or what is left. -/
theorem unquoteFrom_digits (count : Nat) (taken rest : List Char) :
    unquoteFrom (.digits (count + 1) taken) rest
      = (charOfDigits? (taken ++ rest.take (count + 1))).bind fun c =>
        (unquoteFrom .plain (rest.drop (count + 1))).map (c :: ·) := by
  induction count generalizing taken rest with
  | zero =>
    cases rest with
    | nil => simp [unquoteFrom, Option.map_eq_bind]
    | cons d rest => simp [unquoteFrom]
  | succ count ih =>
    cases rest with
    | nil => simp [unquoteFrom, Option.map_eq_bind]
    | cons d rest =>
      rw [unquoteFrom, if_neg (by omega)]
      simp [ih]

/-- An escape sequence with a brace takes what stands before the closing one, or what is left. -/
theorem unquoteFrom_braces (taken rest : List Char) :
    unquoteFrom (.braces taken) rest
      = (charOfDigits? (taken ++ rest.takeWhile (· != '}'))).bind fun c =>
        (unquoteFrom .plain ((rest.dropWhile (· != '}')).drop 1)).map (c :: ·) := by
  induction rest generalizing taken with
  | nil => simp [unquoteFrom, Option.map_eq_bind]
  | cons d rest ih =>
    rw [unquoteFrom]
    by_cases hd : d = '}'
    · simp [hd]
    · rw [if_neg hd, ih]
      simp [hd]

theorem unquoteFrom_hex (rest : List Char) :
    unquoteFrom .plain ('\\' :: 'x' :: rest)
      = (charOfDigits? (rest.take 2)).bind fun c =>
        (unquoteFrom .plain (rest.drop 2)).map (c :: ·) := unquoteFrom_digits 1 [] rest

theorem unquoteFrom_unicode {rest : List Char} (h : rest.head? ≠ some '{') :
    unquoteFrom .plain ('\\' :: 'u' :: rest)
      = (charOfDigits? (rest.take 4)).bind fun c =>
        (unquoteFrom .plain (rest.drop 4)).map (c :: ·) := by
  cases rest with
  | nil => rfl
  | cons d rest =>
    have hd : d ≠ '{' := fun hd => h (congrArg some hd)
    show (if d = '{' then _ else unquoteFrom (.digits 3 [d]) rest) = _
    rw [if_neg hd, unquoteFrom_digits]
    rfl

theorem unquoteFrom_codePoint (rest : List Char) :
    unquoteFrom .plain ('\\' :: 'u' :: '{' :: rest)
      = (charOfDigits? (rest.takeWhile (· != '}'))).bind fun c =>
        (unquoteFrom .plain ((rest.dropWhile (· != '}')).drop 1)).map (c :: ·) :=
  unquoteFrom_braces [] rest

/-- An escape sequence with braces around its digits. -/
theorem unquoteFrom_closed {taken : List Char} (h : '}' ∉ taken) (rest : List Char) :
    unquoteFrom .plain ('\\' :: ('u' :: '{' :: (taken ++ ['}']) ++ rest))
      = (charOfDigits? taken).bind fun c => (unquoteFrom .plain rest).map (c :: ·) := by
  have hall : ∀ c ∈ taken, (c != '}') = true := fun c hc => bne_iff_ne.2 fun heq => h (heq ▸ hc)
  have hread := unquoteFrom_codePoint (taken ++ '}' :: rest)
  rw [List.takeWhile_append_of_pos hall, List.dropWhile_append_of_pos hall,
    List.takeWhile_cons_of_neg (by simp), List.dropWhile_cons_of_neg (by simp),
    List.append_nil] at hread
  rw [List.cons_append, List.cons_append, List.append_assoc, List.singleton_append]
  exact hread

/-- An escape sequence without the closing brace. -/
theorem unquoteFrom_unclosed {taken : List Char} (h : '}' ∉ taken) :
    unquoteFrom .plain ('\\' :: 'u' :: '{' :: taken)
      = (charOfDigits? taken).bind fun c => (unquoteFrom .plain []).map (c :: ·) := by
  have hall : ∀ c ∈ taken, (c != '}') = true := fun c hc => bne_iff_ne.2 fun heq => h (heq ▸ hc)
  have hread := unquoteFrom_codePoint (taken ++ [])
  rw [List.takeWhile_append_of_pos hall, List.dropWhile_append_of_pos hall, List.takeWhile_nil,
    List.append_nil] at hread
  exact hread

/-- Digits without a sign have the character with their number. -/
theorem charOfDigits?_of_isHexNumber {digits : List Char} {code : Nat}
    (h : IsHexNumber digits code) : charOfDigits? digits = charOfCode? code := by
  have hvalue := hexValue?_eq_some_iff.2 h
  unfold charOfDigits?
  split
  · exact absurd h (not_isHexNumber_plus _ _)
  · rw [hvalue, Option.bind_some]

/-! ## Escape sequences -/

variable {digits sequence rest inside : List Char} {units : List Nat} {pieces : List (List Nat)}

/-- The digits of an escape sequence are read as a character, if they write one, and refused
otherwise. -/
theorem read_of_isHexNumber {digits : List Char} {code : Nat} (h : IsHexNumber digits code)
    (hlast : code ≤ 0x10FFFF) {read : Option (List Char)}
    (hread : read = (charOfDigits? digits).bind fun c => (unquoteFrom .plain rest).map (c :: ·)) :
    (∃ c : Char, unitsOfCode code = unitsOfCode c.toNat
        ∧ read = (unquoteFrom .plain rest).map (c :: ·))
      ∨ ¬ IsCharacter (unitsOfCode code) ∧ read = none := by
  rw [charOfDigits?_of_isHexNumber h, charOfCode?] at hread
  by_cases hvalid : code.isValidChar
  · rw [if_pos hvalid] at hread
    refine .inl ⟨Char.ofNat code, ?_, hread⟩
    rw [charOfCode?_eq_some_iff.1 (if_pos hvalid)]
  · rw [if_neg hvalid] at hread
    exact .inr ⟨not_isCharacter_of_not_isValidChar hlast hvalid, hread⟩

/-- **What is read of an escape sequence**: its character, a character instead of an end of line, or
nothing, if it is half of a surrogate pair. -/
theorem unquoteFrom_of_escape (h : Escape sequence rest units) (hline : '\n' ∉ sequence) :
    (∃ c : Char, units = unitsOfCode c.toNat
        ∧ unquoteFrom .plain ('\\' :: (sequence ++ rest)) = (unquoteFrom .plain rest).map (c :: ·))
      ∨ (units = [] ∧ ∃ c : Char, unquoteFrom .plain ('\\' :: (sequence ++ rest))
        = (unquoteFrom .plain rest).map (c :: ·))
      ∨ ¬ IsCharacter units ∧ unquoteFrom .plain ('\\' :: (sequence ++ rest)) = none := by
  cases h with
  | control h =>
    simp only [controls, List.mem_cons, Prod.mk.injEq, List.not_mem_nil, or_false] at h
    rcases h with ⟨rfl, rfl⟩ | ⟨rfl, rfl⟩ | ⟨rfl, rfl⟩ | ⟨rfl, rfl⟩ | ⟨rfl, rfl⟩ | ⟨rfl, rfl⟩
    · exact .inl ⟨'\x08', rfl, rfl⟩
    · exact .inl ⟨'\t', rfl, rfl⟩
    · exact .inl ⟨'\n', rfl, rfl⟩
    · exact .inl ⟨'\x0b', rfl, rfl⟩
    · exact .inl ⟨'\x0c', rfl, rfl⟩
    · exact .inl ⟨'\r', rfl, rfl⟩
  | null _ => exact .inl ⟨'\x00', rfl, rfl⟩
  | @hex digits _ code hlength h =>
    have hsmall := lt_of_isHexNumber h
    rw [hlength] at hsmall
    have hread := unquoteFrom_hex (digits ++ rest)
    rw [List.take_left' hlength, List.drop_left' hlength] at hread
    rw [show [code] = unitsOfCode code from (if_pos (by omega)).symm]
    exact (read_of_isHexNumber h (by omega) hread).imp id .inr
  | @unicode digits _ code hlength h =>
    have hsmall := lt_of_isHexNumber h
    rw [hlength] at hsmall
    have hbrace : (digits ++ rest).head? ≠ some '{' := by
      rw [List.head?_append_of_ne_nil _ h.1]
      exact fun hhead => notMem_of_isHexNumber h (by decide) (List.mem_of_head? hhead)
    have hread := unquoteFrom_unicode hbrace
    rw [List.take_left' hlength, List.drop_left' hlength] at hread
    rw [show [code] = unitsOfCode code from (if_pos (by omega)).symm]
    exact (read_of_isHexNumber h (by omega) hread).imp id .inr
  | @codePoint digits _ code h hlast =>
    have hread := unquoteFrom_closed (notMem_of_isHexNumber h (by decide)) rest
    exact (read_of_isHexNumber h hlast hread).imp id .inr
  | continuation h _ =>
    refine .inr (.inl ⟨rfl, ?_⟩)
    simp only [lineEnds, List.mem_cons, List.not_mem_nil, or_false] at h
    rcases h with rfl | rfl | rfl | rfl | rfl
    · exact absurd List.mem_cons_self hline
    · exact ⟨'\r', rfl⟩
    · exact absurd (List.mem_cons_of_mem _ List.mem_cons_self) hline
    · exact ⟨'\u2028', rfl⟩
    · exact ⟨'\u2029', rfl⟩
  | @self c _ hletter hdigit hcontrol hend =>
    refine .inl ⟨c, rfl, ?_⟩
    simp only [controls, List.map_cons, List.map_nil, List.mem_cons, List.not_mem_nil, or_false,
      not_or] at hcontrol hletter
    show unquoteFrom .escape (c :: rest) = _
    rw [unquoteFrom] <;> rintro rfl <;> simp_all [lineEnds]

/-! ## Well-formed literals -/

/-- **A literal of characters has its value.** -/
theorem exists_unquoteFrom_of_spelled (h : Spelled inside pieces) (hline : '\n' ∉ inside)
    (hall : ∀ units ∈ pieces, IsCharacter units) :
    ∃ text, unquoteFrom .plain inside = some text ∧ codeUnits text = pieces.flatten := by
  induction h with
  | nil => exact ⟨[], rfl, rfl⟩
  | @plain c rest pieces hc _ ih =>
    obtain ⟨text, htext, hunits⟩ := ih (List.not_mem_of_not_mem_cons hline)
      fun units hmem => hall units (List.mem_cons_of_mem _ hmem)
    refine ⟨c :: text, ?_, by rw [codeUnits_cons, hunits, List.flatten_cons]⟩
    rw [unquoteFrom, if_neg hc, htext, Option.map_some]
  | @escape sequence rest units pieces hescape _ ih =>
    rw [List.mem_cons, List.mem_append, not_or, not_or] at hline
    obtain ⟨text, htext, hunits⟩ := ih hline.2.2
      fun units hmem => hall units (List.mem_cons_of_mem _ hmem)
    have hcharacter := hall units List.mem_cons_self
    rcases unquoteFrom_of_escape hescape hline.2.1 with ⟨c, rfl, hread⟩ | ⟨rfl, -⟩ | ⟨hnone, -⟩
    · refine ⟨c :: text, by rw [hread, htext, Option.map_some], ?_⟩
      rw [codeUnits_cons, hunits, List.flatten_cons]
    · obtain ⟨c, hc⟩ := hcharacter
      exact absurd hc.symm (unitsOfCode_ne_nil _)
    · exact absurd hcharacter hnone

/-- A text has as many code units as pieces have, and more if not all of them are characters. -/
def Outgrows (pieces : List (List Nat)) (text : List Char) : Prop :=
  pieces.flatten.length ≤ (codeUnits text).length
    ∧ ((∃ units ∈ pieces, ¬ IsCharacter units) → pieces.flatten.length < (codeUnits text).length)

theorem Outgrows.cons {text : List Char} (h : Outgrows pieces text) (c : Char) :
    Outgrows (unitsOfCode c.toNat :: pieces) (c :: text) := by
  unfold Outgrows
  rw [codeUnits_cons, List.flatten_cons, List.length_append, List.length_append]
  refine ⟨Nat.add_le_add_left h.1 _, fun ⟨units, hmem, hother⟩ => Nat.add_lt_add_left ?_ _⟩
  rcases List.mem_cons.1 hmem with rfl | hmem
  · exact absurd ⟨c, rfl⟩ hother
  · exact h.2 ⟨units, hmem, hother⟩

/-- **No other literal has its value**: what is read of it is too long. -/
theorem outgrows_of_spelled (h : Spelled inside pieces) (hline : '\n' ∉ inside)
    {text : List Char} (hread : unquoteFrom .plain inside = some text) : Outgrows pieces text := by
  induction h generalizing text with
  | nil =>
    obtain rfl := Option.some.inj hread
    exact ⟨Nat.le_refl _, nofun⟩
  | @plain c rest pieces hc _ ih =>
    rw [unquoteFrom, if_neg hc] at hread
    obtain ⟨more, hmore, rfl⟩ := Option.map_eq_some_iff.1 hread
    exact (ih (List.not_mem_of_not_mem_cons hline) hmore).cons c
  | @escape sequence rest units pieces hescape _ ih =>
    rw [List.mem_cons, List.mem_append, not_or, not_or] at hline
    rcases unquoteFrom_of_escape hescape hline.2.1 with ⟨c, rfl, heq⟩ | ⟨rfl, c, heq⟩ | ⟨-, heq⟩
    · rw [heq] at hread
      obtain ⟨more, hmore, rfl⟩ := Option.map_eq_some_iff.1 hread
      exact (ih hline.2.2 hmore).cons c
    · -- The character that is kept makes the text longer than the value.
      rw [heq] at hread
      obtain ⟨more, hmore, rfl⟩ := Option.map_eq_some_iff.1 hread
      have hle := (ih hline.2.2 hmore).1
      have hc := List.length_pos_of_ne_nil (unitsOfCode_ne_nil c.toNat)
      have hlt : (([] :: pieces).flatten).length < (codeUnits (c :: more)).length := by
        rw [codeUnits_cons, List.flatten_cons, List.nil_append, List.length_append]
        omega
      exact ⟨Nat.le_of_lt hlt, fun _ => hlt⟩
    · rw [heq] at hread
      cases hread

/-! ## Malformed literals -/

/-- A literal is refused if what it leads to is. -/
theorem unquoteFrom_eq_none_of_leads {stop : List Char} (h : Leads inside stop)
    (hline : '\n' ∉ inside) (hstop : unquoteFrom .plain stop = none) :
    unquoteFrom .plain inside = none := by
  induction h with
  | refl => exact hstop
  | plain hc _ ih =>
    rw [unquoteFrom, if_neg hc, ih (List.not_mem_of_not_mem_cons hline) hstop, Option.map_none]
  | @escape sequence rest stop units hescape _ ih =>
    rw [List.mem_cons, List.mem_append, not_or, not_or] at hline
    have hrest := ih hline.2.2 hstop
    rcases unquoteFrom_of_escape hescape hline.2.1 with ⟨c, -, heq⟩ | ⟨-, c, heq⟩ | ⟨-, heq⟩
    · rw [heq, hrest, Option.map_none]
    · rw [heq, hrest, Option.map_none]
    · exact heq
  | @decimal c rest stop hc _ ih =>
    rw [List.mem_cons, List.mem_cons, not_or, not_or] at hline
    have hrest := ih hline.2.2 hstop
    show unquoteFrom .escape (c :: rest) = none
    by_cases hzero : c = '0'
    · rw [hzero, unquoteFrom, hrest, Option.map_none]
    · rw [unquoteFrom, hrest, Option.map_none]
      all_goals
        rintro rfl
        first | exact hzero rfl | cases hc

/-- The digits that an escape sequence takes fill it, or nothing is left. -/
theorem length_take_or (count : Nat) (text : List Char) :
    (text.take count).length = count ∨ (text.take count).length < count ∧ text.drop count = [] := by
  rw [List.length_take, List.drop_eq_nil_iff]
  omega

/-- **An escape sequence with `x` or `u` is refused**, unless it is tolerated. -/
theorem unquoteFrom_eq_none_of_not_tolerated {text : List Char}
    (hletter : text.head? = some 'x' ∨ text.head? = some 'u')
    (hrefused : ∀ sequence rest, text = sequence ++ rest → ¬ Tolerated sequence rest) :
    unquoteFrom .plain ('\\' :: text) = none := by
  -- A character that is read makes the sequence tolerated.
  have hnone : ∀ (taken : List Char) (next : Char → Option (List Char)),
      (∀ c : Char, IsSignedNumber taken c.toNat → ∃ sequence rest, text = sequence ++ rest
        ∧ Tolerated sequence rest) →
      (charOfDigits? taken).bind next = none := by
    intro taken next htolerated
    cases hc : charOfDigits? taken with
    | none => rfl
    | some c =>
      obtain ⟨sequence, rest, hsplit, h⟩ := htolerated c (charOfDigits?_eq_some_iff.1 hc)
      exact absurd h (hrefused sequence rest hsplit)
  rcases hletter with hx | hu
  · obtain ⟨rest, rfl⟩ := List.head?_eq_some_iff.1 hx
    rw [unquoteFrom_hex]
    refine hnone _ _ fun c h => ⟨'x' :: rest.take 2, rest.drop 2, ?_, .hex h (length_take_or 2 rest)⟩
    rw [List.cons_append, List.take_append_drop]
  · obtain ⟨rest, rfl⟩ := List.head?_eq_some_iff.1 hu
    by_cases hbrace : rest.head? = some '{'
    · obtain ⟨more, rfl⟩ := List.head?_eq_some_iff.1 hbrace
      rw [unquoteFrom_codePoint]
      refine hnone _ _ fun c h => ?_
      have hsplit := List.takeWhile_append_dropWhile (p := (· != '}')) (l := more)
      cases hdrop : more.dropWhile (· != '}') with
      | nil =>
        rw [hdrop, List.append_nil] at hsplit
        rw [hsplit] at h
        exact ⟨_, [], (List.append_nil _).symm, .unclosed h⟩
      | cons d after =>
        have hd := List.head?_dropWhile_not (· != '}') more
        rw [hdrop] at hd hsplit
        obtain rfl : d = '}' := by simpa using hd
        refine ⟨_, after, ?_, .codePoint h⟩
        rw [List.cons_append, List.cons_append, List.append_assoc, List.singleton_append, hsplit]
    · rw [unquoteFrom_unicode hbrace]
      refine hnone _ _ fun c h =>
        ⟨'u' :: rest.take 4, rest.drop 4, ?_, .unicode h (length_take_or 4 rest)⟩
      rw [List.cons_append, List.take_append_drop]

/-- **A tolerated escape sequence is read** as a character. -/
theorem exists_unquoteFrom_of_tolerated (h : Tolerated sequence rest) :
    ∃ c : Char, unquoteFrom .plain ('\\' :: (sequence ++ rest))
      = (unquoteFrom .plain rest).map (c :: ·) := by
  have hfill : ∀ {count : Nat} {taken : List Char},
      (taken.length = count ∨ taken.length < count ∧ rest = []) →
      (taken ++ rest).take count = taken ∧ (taken ++ rest).drop count = rest := by
    rintro count taken (hlength | ⟨hshort, rfl⟩)
    · exact ⟨List.take_left' hlength, List.drop_left' hlength⟩
    · rw [List.append_nil]
      exact ⟨List.take_of_length_le (Nat.le_of_lt hshort), List.drop_of_length_le (Nat.le_of_lt hshort)⟩
  cases h with
  | @hex taken _ c h hlength =>
    obtain ⟨htake, hdrop⟩ := hfill hlength
    refine ⟨c, (unquoteFrom_hex (taken ++ rest)).trans ?_⟩
    rw [htake, hdrop, charOfDigits?_eq_some_iff.2 h, Option.bind_some]
  | @unicode taken _ c h hlength =>
    obtain ⟨htake, hdrop⟩ := hfill hlength
    have hbrace : (taken ++ rest).head? ≠ some '{' := by
      rw [List.head?_append_of_ne_nil _ (ne_nil_of_isSignedNumber h)]
      exact fun hhead =>
        notMem_of_isSignedNumber h (by decide) (by decide) (List.mem_of_head? hhead)
    refine ⟨c, (unquoteFrom_unicode hbrace).trans ?_⟩
    rw [htake, hdrop, charOfDigits?_eq_some_iff.2 h, Option.bind_some]
  | @codePoint taken _ c h =>
    have hbrace := notMem_of_isSignedNumber h (show hexDigit? '}' = none by decide) (by decide)
    refine ⟨c, (unquoteFrom_closed hbrace rest).trans ?_⟩
    rw [charOfDigits?_eq_some_iff.2 h, Option.bind_some]
  | @unclosed taken c h =>
    have hbrace := notMem_of_isSignedNumber h (show hexDigit? '}' = none by decide) (by decide)
    rw [List.append_nil]
    refine ⟨c, (unquoteFrom_unclosed hbrace).trans ?_⟩
    rw [charOfDigits?_eq_some_iff.2 h, Option.bind_some]

/-- **What is read of a literal.** Every literal is well formed, or has a malformed escape sequence,
or a backslash before a digit. One that is well formed has its value exactly if each piece of it is a
character; one with a malformed escape sequence is refused, unless that is tolerated, which means
that it is read as a character. -/
theorem unquote_exact (quote : Quote) {inside : List Char} (h : Inside quote.char inside) :
    ((∃ pieces, Spelled inside pieces)
        ∨ (∃ text, Leads inside ('\\' :: text) ∧ Malformed text)
        ∨ ∃ c rest, Leads inside ('\\' :: c :: rest) ∧ c.isDigit = true)
      ∧ (∀ pieces text, Spelled inside pieces → pieces.flatten = codeUnits text →
        (unquote (String.ofList (quote.char :: (inside ++ [quote.char]))) = some (String.ofList text)
          ↔ ∀ units ∈ pieces, IsCharacter units))
      ∧ (∀ text, Leads inside ('\\' :: text) → Malformed text →
          (∀ sequence rest, text = sequence ++ rest → ¬ Tolerated sequence rest) →
          unquote (String.ofList (quote.char :: (inside ++ [quote.char]))) = none)
      ∧ ∀ sequence rest, Tolerated sequence rest →
          ∃ c : Char, unquoteFrom .plain ('\\' :: (sequence ++ rest))
            = (unquoteFrom .plain rest).map (c :: ·) := by
  rw [unquote_between]
  refine ⟨spelled_or_malformed inside h, fun pieces text hspelled hvalue => ?_,
    fun text hleads hbad hrefused => ?_, fun sequence rest => exists_unquoteFrom_of_tolerated⟩
  · constructor
    · intro hread
      obtain ⟨found, hfound, hsame⟩ := Option.map_eq_some_iff.1 hread
      obtain rfl := String.ofList_injective hsame
      by_contra hother
      have hlt := (outgrows_of_spelled hspelled h.newline_notMem hfound).2 (by simpa using hother)
      rw [hvalue] at hlt
      exact Nat.lt_irrefl _ hlt
    · intro hall
      obtain ⟨found, hfound, hunits⟩ :=
        exists_unquoteFrom_of_spelled hspelled h.newline_notMem hall
      rw [hfound, codeUnits_injective (hunits.trans hvalue), Option.map_some]
  · rw [unquoteFrom_eq_none_of_leads hleads h.newline_notMem
      (unquoteFrom_eq_none_of_not_tolerated hbad.1 hrefused), Option.map_none]

/-- An escape sequence with `x` is malformed without two digits. -/
theorem malformed_hex {rest : List Char} (h : rest.length < 2 ∨ hexValue? (rest.take 2) = none) :
    Malformed ('x' :: rest) := by
  refine ⟨.inl rfl, fun sequence after units hsplit hescape => ?_⟩
  obtain ⟨c, more, rfl, -⟩ := hescape.exists_cons
  rw [List.cons_append, List.cons.injEq] at hsplit
  obtain ⟨rfl, rfl⟩ := hsplit
  cases hescape with
  | control hmem => simp [controls] at hmem
  | @hex digits _ code hlength hnumber =>
    rw [List.take_left' hlength, hexValue?_eq_some_iff.2 hnumber] at h
    rcases h with hshort | hnone
    · rw [List.length_append, hlength] at hshort
      omega
    · cases hnone
  | continuation hmem => simp [lineEnds] at hmem
  | self hletter => exact hletter (.inl rfl)

/-- An escape sequence with a brace is malformed without the closing one. -/
theorem malformed_unclosed {rest : List Char} (h : '}' ∉ rest) : Malformed ('u' :: '{' :: rest) := by
  refine ⟨.inr rfl, fun sequence after units hsplit hescape => ?_⟩
  obtain ⟨c, more, rfl, -⟩ := hescape.exists_cons
  obtain ⟨rfl, hrest⟩ := List.cons.inj hsplit
  cases hescape with
  | control hmem => simp [controls] at hmem
  | unicode _ hnumber =>
    have hbrace := notMem_of_isHexNumber hnumber (show hexDigit? '{' = none by decide)
    obtain ⟨d, digits, rfl⟩ := List.exists_cons_of_ne_nil hnumber.1
    obtain ⟨rfl, -⟩ := List.cons.inj hrest
    exact hbrace List.mem_cons_self
  | codePoint hnumber _ =>
    obtain ⟨-, rfl⟩ := List.cons.inj hrest
    simp at h
  | continuation hmem => simp [lineEnds] at hmem
  | self hletter => exact hletter (.inr rfl)

/-- An escaped letter in braces and an escaped quote are read, and a single digit is refused. -/
theorem unquote_small_exact :
    (Inside '\'' ['\\', 'x', '4', '1', '\\', '\'']
        ∧ Spelled ['\\', 'x', '4', '1', '\\', '\''] [[0x41], [0x27]]
        ∧ unquote "'\\x41\\\''" = some "A'")
      ∧ Inside '"' ['\\', 'x', '4', 'g'] ∧ Malformed ['x', '4', 'g']
        ∧ unquote "\"\\x4g\"" = none := by
  have hinside : Inside Quote.single.char ['\\', 'x', '4', '1', '\\', '\''] :=
    .escape (by decide) (.plain (by decide) (by decide) (by decide)
      (.plain (by decide) (by decide) (by decide) (.escape (by decide) .nil)))
  have hspelled : Spelled ['\\', 'x', '4', '1', '\\', '\''] [[0x41], [0x27]] :=
    @Spelled.escape ['x', '4', '1'] _ _ _ (.hex rfl (hexValue?_eq_some_iff.1 rfl))
      (@Spelled.escape ['\''] _ _ _ (.self (by decide) rfl (by decide) (by decide)) .nil)
  have hall : ∀ units ∈ [[0x41], [0x27]], IsCharacter units := by
    simp only [List.forall_mem_cons, List.not_mem_nil, false_implies, implies_true, and_true]
    exact ⟨⟨'A', rfl⟩, ⟨'\'', rfl⟩⟩
  have hbadInside : Inside Quote.double.char ['\\', 'x', '4', 'g'] :=
    .escape (by decide) (.plain (by decide) (by decide) (by decide)
      (.plain (by decide) (by decide) (by decide) .nil))
  have hbad : Malformed ['x', '4', 'g'] := malformed_hex (.inr rfl)
  have hrefused : ∀ sequence rest, ['x', '4', 'g'] = sequence ++ rest → ¬ Tolerated sequence rest := by
    intro sequence rest hsplit htolerated
    cases htolerated with
    | hex hnumber hlength =>
      rw [List.cons_append, List.cons.injEq] at hsplit
      have hread := charOfDigits?_eq_some_iff.2 hnumber
      rcases hlength with hlength | ⟨hlength, rfl⟩
      · rw [← List.take_left' hlength, ← hsplit.2] at hread
        cases hread
      · rw [List.append_nil] at hsplit
        rw [← hsplit.2] at hlength
        exact absurd hlength (by decide)
    | unicode | codePoint | unclosed => cases hsplit
  exact ⟨⟨hinside, hspelled,
    ((unquote_exact .single hinside).2.1 _ ['A', '\''] hspelled rfl).2 hall⟩, hbadInside, hbad,
    (unquote_exact .double hbadInside).2.2.1 _ (.refl _) hbad hrefused⟩

/-- A surrogate pair is refused, and an end of line after a backslash kept, though both are well
formed; digits with a plus sign, and digits that the end of the literal cuts short, are read, though
they are malformed. -/
theorem not_unquote_exact :
    (Spelled "\\uD83D\\uDE00".toList [[0xD83D], [0xDE00]]
        ∧ [[0xD83D], [0xDE00]].flatten = codeUnits ['😀']
        ∧ Inside '\'' "\\uD83D\\uDE00".toList ∧ unquote "'\\uD83D\\uDE00'" = none)
      ∧ (Spelled ['\\', '\r'] [[]] ∧ [[]].flatten = codeUnits []
        ∧ Inside '\'' ['\\', '\r'] ∧ unquote "'\\\r'" = some "\r")
      ∧ (Malformed ['x', '+', '1'] ∧ Inside '\'' ['\\', 'x', '+', '1']
        ∧ unquote "'\\x+1'" = some "\x01")
      ∧ (Malformed ['x', '4'] ∧ Inside '\'' ['\\', 'x', '4'] ∧ unquote "'\\x4'" = some "\x04")
      ∧ Malformed ['u', '{', '4', '1'] ∧ Inside '\'' ['\\', 'u', '{', '4', '1']
        ∧ unquote (String.ofList ['\'', '\\', 'u', '{', '4', '1', '\'']) = some "A" := by
  have hinside : ∀ inside after, Marker.Text.splitLiteral? '\'' (inside ++ '\'' :: after)
      = some (inside, after) → Inside '\'' inside :=
    fun inside after h => ((splitLiteral?_eq_some_iff (by decide)).1 h).1
  have hhalf : ∀ digits rest code, digits.length = 4 → hexValue? digits = some code →
      Escape ('u' :: digits) rest [code] :=
    fun digits rest code hlength h => .unicode hlength (hexValue?_eq_some_iff.1 h)
  refine ⟨⟨?_, rfl, hinside _ [] rfl, rfl⟩, ⟨?_, rfl, hinside _ [] rfl, rfl⟩,
    ⟨malformed_hex (.inr rfl), hinside _ [] rfl, rfl⟩,
    ⟨malformed_hex (.inl (by decide)), hinside _ [] rfl, rfl⟩,
    malformed_unclosed (by decide), hinside _ [] rfl, rfl⟩
  · exact @Spelled.escape ['u', 'D', '8', '3', 'D'] _ _ _ (hhalf _ _ _ rfl rfl)
      (@Spelled.escape ['u', 'D', 'E', '0', '0'] _ _ _ (hhalf _ _ _ rfl rfl) .nil)
  · exact @Spelled.escape ['\r'] _ _ _ (.continuation (by decide) nofun) .nil

end Phrasebook.Literal
