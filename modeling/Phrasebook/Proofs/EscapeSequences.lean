import Mathlib.Data.List.Forall2
import Mathlib.Data.Nat.Digits.Defs
import Phrasebook.Proofs.MarkerText

/-!
# What string literals mean

The value of a literal is a sequence of UTF-16 code units. The inside of a literal is cut into
characters and escape sequences, each of which stands for some units: `Escape` lists the escape
sequences of strict mode with theirs, the ends of lines that a backslash takes away among them. An
escape sequence with `x` or `u` that is none of them is malformed; a backslash before a digit has no
meaning in strict mode, but is not malformed either.

Results:
* `Text.codeUnits_injective`: a text is known by its code units.
* `Literal.hexValue?_eq_some_iff`, `Literal.charOfDigits?_eq_some_iff`: the number of hexadecimal
  digits, and its character.
* `Literal.spelled_or_malformed`: every literal is well formed, or has a malformed escape sequence,
  or a backslash before a digit.
-/

namespace Phrasebook

/-! ## Code units -/

namespace Text

/-- The UTF-16 code units of a character with a number. -/
def unitsOfCode (code : Nat) : List Nat :=
  if code < 0x10000 then [code]
  else [0xD800 + (code - 0x10000) / 0x400, 0xDC00 + (code - 0x10000) % 0x400]

/-- The UTF-16 code units of a text. -/
def codeUnits (text : List Char) : List Nat := text.flatMap fun c => unitsOfCode c.toNat

theorem codeUnits_cons (c : Char) (text : List Char) :
    codeUnits (c :: text) = unitsOfCode c.toNat ++ codeUnits text := List.flatMap_cons

/-- The code units of one character. -/
def IsCharacter (units : List Nat) : Prop := ∃ c : Char, units = unitsOfCode c.toNat

theorem unitsOfCode_ne_nil (code : Nat) : unitsOfCode code ≠ [] := by
  unfold unitsOfCode
  split <;> simp

/-- The units of one half of a surrogate pair are those of no character. -/
theorem not_isCharacter_of_not_isValidChar {code : Nat} (hlast : code ≤ 0x10FFFF)
    (h : ¬ code.isValidChar) : ¬ IsCharacter (unitsOfCode code) := by
  rintro ⟨c, hc⟩
  have hvalid : c.toNat.isValidChar := c.valid
  have hsurrogate : code < 0x10000 := by omega
  unfold unitsOfCode at hc
  rw [if_pos hsurrogate] at hc
  split at hc
  · obtain rfl := List.singleton_inj.1 hc
    exact h hvalid
  · cases hc

/-- A text is split after its first character by its code units. -/
theorem unitsOfCode_append_inj {c d : Char} {front back : List Nat}
    (h : unitsOfCode c.toNat ++ front = unitsOfCode d.toNat ++ back) : c = d ∧ front = back := by
  have hc : c.toNat.isValidChar := c.valid
  have hd : d.toNat.isValidChar := d.valid
  unfold unitsOfCode at h
  rw [← Char.toNat_inj]
  split at h <;> split at h <;>
    simp only [List.cons_append, List.nil_append, List.cons.injEq] at h
  · exact h
  · omega
  · omega
  · obtain ⟨hhigh, hlow, hrest⟩ := h
    exact ⟨by omega, hrest⟩

/-- **A text is known by its code units.** -/
theorem codeUnits_injective {text other : List Char} (h : codeUnits text = codeUnits other) :
    text = other := by
  induction text generalizing other with
  | nil =>
    cases other with
    | nil => rfl
    | cons d other =>
      rw [codeUnits_cons] at h
      exact absurd (List.append_eq_nil_iff.1 h.symm).1 (unitsOfCode_ne_nil _)
  | cons c text ih =>
    cases other with
    | nil =>
      rw [codeUnits_cons] at h
      exact absurd (List.append_eq_nil_iff.1 h).1 (unitsOfCode_ne_nil _)
    | cons d other =>
      rw [codeUnits_cons, codeUnits_cons] at h
      obtain ⟨rfl, hrest⟩ := unitsOfCode_append_inj h
      rw [ih hrest]

end Text

namespace Literal

open Text Marker.Text

/-! ## Hexadecimal numbers -/

/-- A hexadecimal digit and its value. -/
def IsHexDigit (c : Char) (value : Nat) : Prop :=
  value < 16 ∧ (c = Nat.digitChar value ∨ c = (Nat.digitChar value).toUpper)

/-- Hexadecimal digits, at least one, and the number that they write. -/
def IsHexNumber (digits : List Char) (number : Nat) : Prop :=
  digits ≠ [] ∧ ∃ values, List.Forall₂ IsHexDigit digits values
    ∧ number = Nat.ofDigits 16 values.reverse

theorem hexDigit?_eq_some_iff {c : Char} {value : Nat} :
    hexDigit? c = some value ↔ IsHexDigit c value := by
  constructor
  · intro h
    have hall : ∀ code < 128, ∀ value < 16, hexDigit? (Char.ofNat code) = some value →
        Char.ofNat code = Nat.digitChar value
          ∨ Char.ofNat code = (Nat.digitChar value).toUpper := by decide +kernel
    have hbounds : c.toNat < 128 ∧ value < 16 := by
      unfold hexDigit? at h
      simp only [Char.le_def, UInt32.le_iff_toNat_le] at h
      split at h
      · next hc => simp at h hc; omega
      · split at h
        · next hc => simp at h hc; omega
        · split at h
          · next hc => simp at h hc; omega
          · cases h
    have hdigit := hall c.toNat hbounds.1 value hbounds.2
    rw [Char.ofNat_toNat] at hdigit
    exact ⟨hbounds.2, hdigit h⟩
  · rintro ⟨hvalue, hc⟩
    have hall : ∀ value < 16, hexDigit? (Nat.digitChar value) = some value
        ∧ hexDigit? (Nat.digitChar value).toUpper = some value := by decide +kernel
    rcases hc with rfl | rfl
    · exact (hall value hvalue).1
    · exact (hall value hvalue).2

/-- A run of digits is summed up from the left. -/
theorem foldl_hexDigit?_eq_some_iff {digits : List Char} {start number : Nat} :
    digits.foldl (fun value c => do pure ((← value) * 16 + (← hexDigit? c))) (some start)
        = some number
      ↔ ∃ values, List.Forall₂ IsHexDigit digits values
        ∧ number = Nat.ofDigits 16 values.reverse + 16 ^ values.length * start := by
  have hnone : ∀ digits : List Char,
      digits.foldl (fun value c => do pure ((← value) * 16 + (← hexDigit? c))) none = none := by
    intro digits
    induction digits with
    | nil => rfl
    | cons c digits ih => exact ih
  induction digits generalizing start with
  | nil =>
    rw [List.foldl_nil, Option.some.injEq]
    constructor
    · rintro rfl
      exact ⟨[], .nil, by simp⟩
    · rintro ⟨values, hvalues, rfl⟩
      cases hvalues
      simp
  | cons c digits ih =>
    rw [List.foldl_cons]
    cases hdigit : hexDigit? c with
    | none =>
      show digits.foldl _ none = some number ↔ _
      rw [hnone]
      refine ⟨nofun, ?_⟩
      rintro ⟨values, hvalues, -⟩
      cases hvalues with
      | cons hc hmore =>
        rw [hexDigit?_eq_some_iff.2 hc] at hdigit
        cases hdigit
    | some value =>
      refine (@ih (start * 16 + value)).trans ?_
      have hsum : ∀ values : List Nat, Nat.ofDigits 16 (value :: values).reverse
            + 16 ^ (value :: values).length * start
          = Nat.ofDigits 16 values.reverse + 16 ^ values.length * (start * 16 + value) := by
        intro values
        rw [List.reverse_cons, Nat.ofDigits_append, List.length_reverse, Nat.ofDigits_singleton,
          List.length_cons]
        ring
      constructor
      · rintro ⟨values, hvalues, rfl⟩
        exact ⟨value :: values, .cons (hexDigit?_eq_some_iff.1 hdigit) hvalues, (hsum values).symm⟩
      · rintro ⟨values, hvalues, rfl⟩
        cases hvalues with
        | @cons _ other _ values hc hmore =>
          rw [hexDigit?_eq_some_iff.2 hc] at hdigit
          cases hdigit
          exact ⟨values, hmore, hsum values⟩

/-- **The number of hexadecimal digits**, of which there must be one. -/
theorem hexValue?_eq_some_iff {digits : List Char} {number : Nat} :
    hexValue? digits = some number ↔ IsHexNumber digits number := by
  cases digits with
  | nil => exact ⟨nofun, fun h => absurd rfl h.1⟩
  | cons c digits =>
    show (c :: digits).foldl _ (some 0) = some number ↔ _
    rw [foldl_hexDigit?_eq_some_iff]
    simp [IsHexNumber]

theorem charOfCode?_eq_some_iff {code : Nat} {c : Char} :
    charOfCode? code = some c ↔ c.toNat = code := by
  unfold charOfCode?
  constructor
  · intro h
    obtain ⟨hvalid, hc⟩ := (Option.ite_none_right_eq_some ..).1 h
    rw [← Option.some.inj hc, Char.ofNat, dif_pos hvalid]
    rfl
  · rintro rfl
    rw [if_pos (show c.toNat.isValidChar from c.valid), Char.ofNat_toNat]

/-- Hexadecimal digits that a plus sign may stand before. -/
def IsSignedNumber (taken : List Char) (number : Nat) : Prop :=
  IsHexNumber taken number ∨ ∃ digits, taken = '+' :: digits ∧ IsHexNumber digits number

/-- Only digits stand in a number. -/
theorem notMem_of_isHexNumber {digits : List Char} {number : Nat} {c : Char}
    (h : IsHexNumber digits number) (hc : hexDigit? c = none) : c ∉ digits := by
  obtain ⟨-, values, hvalues, -⟩ := h
  induction hvalues with
  | nil => exact List.not_mem_nil
  | cons hdigit _ ih =>
    refine List.not_mem_cons_of_ne_of_not_mem ?_ ih
    rintro rfl
    rw [hexDigit?_eq_some_iff.2 hdigit] at hc
    cases hc

/-- A number is bounded by how many digits it has. -/
theorem lt_of_isHexNumber {digits : List Char} {number : Nat} (h : IsHexNumber digits number) :
    number < 16 ^ digits.length := by
  obtain ⟨-, values, hvalues, rfl⟩ := h
  have hdigits : ∀ value ∈ values.reverse, value < 16 := by
    intro value hmem
    rw [List.mem_reverse] at hmem
    induction hvalues with
    | nil => cases hmem
    | cons hdigit _ ih =>
      rcases List.mem_cons.1 hmem with rfl | hmem
      · exact hdigit.1
      · exact ih hmem
  rw [hvalues.length_eq, ← List.length_reverse]
  exact Nat.ofDigits_lt_base_pow_length (by decide) hdigits

theorem not_isHexNumber_plus (digits : List Char) (number : Nat) :
    ¬ IsHexNumber ('+' :: digits) number :=
  fun h => notMem_of_isHexNumber h (by decide) List.mem_cons_self

/-- **The character of the digits of an escape sequence**: it has the number that they write. -/
theorem charOfDigits?_eq_some_iff {taken : List Char} {c : Char} :
    charOfDigits? taken = some c ↔ IsSignedNumber taken c.toNat := by
  unfold charOfDigits? IsSignedNumber
  rw [Option.bind_eq_some_iff]
  simp only [charOfCode?_eq_some_iff]
  split
  · next digits =>
    simp only [hexValue?_eq_some_iff, not_isHexNumber_plus, false_or, List.cons.injEq, true_and]
    constructor
    · rintro ⟨number, hnumber, rfl⟩
      exact ⟨digits, rfl, hnumber⟩
    · rintro ⟨_, rfl, hnumber⟩
      exact ⟨_, hnumber, rfl⟩
  · next hplus =>
    simp only [hexValue?_eq_some_iff]
    constructor
    · rintro ⟨number, hnumber, rfl⟩
      exact .inl hnumber
    · rintro (hnumber | ⟨digits, htaken, -⟩)
      · exact ⟨_, hnumber, rfl⟩
      · exact absurd htaken (hplus digits)

theorem notMem_of_isSignedNumber {taken : List Char} {number : Nat} {c : Char}
    (h : IsSignedNumber taken number) (hc : hexDigit? c = none) (hplus : c ≠ '+') : c ∉ taken := by
  rcases h with h | ⟨digits, rfl, h⟩
  · exact notMem_of_isHexNumber h hc
  · exact List.not_mem_cons_of_ne_of_not_mem hplus (notMem_of_isHexNumber h hc)

theorem ne_nil_of_isSignedNumber {taken : List Char} {number : Nat}
    (h : IsSignedNumber taken number) : taken ≠ [] := by
  rcases h with h | ⟨digits, rfl, -⟩
  · exact h.1
  · exact List.cons_ne_nil _ _

/-! ## Escape sequences -/

/-- The letters that stand for a control character after a backslash, with its number. -/
def controls : List (Char × Nat) :=
  [('b', 0x8), ('t', 0x9), ('n', 0xA), ('v', 0xB), ('f', 0xC), ('r', 0xD)]

/-- The ends of lines. -/
def lineEnds : List (List Char) := [['\n'], ['\r'], ['\r', '\n'], ['\u2028'], ['\u2029']]

/-- **An escape sequence of strict mode**, without its backslash, the text after it, and the code
units that it stands for. -/
inductive Escape : List Char → List Char → List Nat → Prop
  | control {c : Char} {code : Nat} {rest : List Char} (h : (c, code) ∈ controls) :
      Escape [c] rest [code]
  | null {rest : List Char} (h : ∀ c ∈ rest.head?, c.isDigit = false) : Escape ['0'] rest [0]
  | hex {digits rest : List Char} {code : Nat} (hlength : digits.length = 2)
      (h : IsHexNumber digits code) : Escape ('x' :: digits) rest [code]
  | unicode {digits rest : List Char} {code : Nat} (hlength : digits.length = 4)
      (h : IsHexNumber digits code) : Escape ('u' :: digits) rest [code]
  | codePoint {digits rest : List Char} {code : Nat} (h : IsHexNumber digits code)
      (hlast : code ≤ 0x10FFFF) : Escape ('u' :: '{' :: (digits ++ ['}'])) rest (unitsOfCode code)
  /-- A backslash takes an end of line away. -/
  | continuation {mark rest : List Char} (h : mark ∈ lineEnds)
      (hwhole : mark = ['\r'] → rest.head? ≠ some '\n') : Escape mark rest []
  /-- Any other character stands for itself. -/
  | self {c : Char} {rest : List Char} (hletter : ¬(c = 'x' ∨ c = 'u'))
      (hdigit : c.isDigit = false) (hcontrol : c ∉ controls.map Prod.fst) (hline : [c] ∉ lineEnds) :
      Escape [c] rest (unitsOfCode c.toNat)

/-- **A well-formed inside of a literal**, cut into characters and escape sequences of strict mode,
with the code units of each. -/
inductive Spelled : List Char → List (List Nat) → Prop
  | nil : Spelled [] []
  | plain {c : Char} {rest : List Char} {pieces : List (List Nat)} (hc : c ≠ '\\')
      (more : Spelled rest pieces) : Spelled (c :: rest) (unitsOfCode c.toNat :: pieces)
  | escape {sequence rest : List Char} {units : List Nat} {pieces : List (List Nat)}
      (h : Escape sequence rest units) (more : Spelled rest pieces) :
      Spelled ('\\' :: (sequence ++ rest)) (units :: pieces)

/-- **A malformed escape sequence** stands at the start of a text, without its backslash: one with
`x` or `u` that is none of strict mode. -/
def Malformed (text : List Char) : Prop :=
  (text.head? = some 'x' ∨ text.head? = some 'u')
    ∧ ∀ sequence rest units, text = sequence ++ rest → ¬ Escape sequence rest units

/-- Characters, escape sequences of strict mode, and backslashes with a digit after each lead from
one place in the inside of a literal to another. -/
inductive Leads : List Char → List Char → Prop
  | refl (text : List Char) : Leads text text
  | plain {c : Char} {rest stop : List Char} (hc : c ≠ '\\') (more : Leads rest stop) :
      Leads (c :: rest) stop
  | escape {sequence rest stop : List Char} {units : List Nat} (h : Escape sequence rest units)
      (more : Leads rest stop) : Leads ('\\' :: (sequence ++ rest)) stop
  | decimal {c : Char} {rest stop : List Char} (hc : c.isDigit = true) (more : Leads rest stop) :
      Leads ('\\' :: c :: rest) stop

/-- **An escape sequence that is tolerated**, without its backslash, and the text after it: the
digits of a character, with a plus sign for the first one or not, which the end of the literal may
cut short. -/
inductive Tolerated : List Char → List Char → Prop
  | hex {taken rest : List Char} {c : Char} (h : IsSignedNumber taken c.toNat)
      (hlength : taken.length = 2 ∨ taken.length < 2 ∧ rest = []) : Tolerated ('x' :: taken) rest
  | unicode {taken rest : List Char} {c : Char} (h : IsSignedNumber taken c.toNat)
      (hlength : taken.length = 4 ∨ taken.length < 4 ∧ rest = []) : Tolerated ('u' :: taken) rest
  | codePoint {taken rest : List Char} {c : Char} (h : IsSignedNumber taken c.toNat) :
      Tolerated ('u' :: '{' :: (taken ++ ['}'])) rest
  | unclosed {taken : List Char} {c : Char} (h : IsSignedNumber taken c.toNat) :
      Tolerated ('u' :: '{' :: taken) []

/-- Only the first character of an escape sequence may be a backslash. -/
theorem Escape.exists_cons {sequence rest : List Char} {units : List Nat}
    (h : Escape sequence rest units) : ∃ c more, sequence = c :: more ∧ '\\' ∉ more := by
  cases h with
  | control | null | self => exact ⟨_, [], rfl, List.not_mem_nil⟩
  | hex _ h | unicode _ h => exact ⟨_, _, rfl, notMem_of_isHexNumber h (by decide)⟩
  | codePoint h _ =>
    refine ⟨_, _, rfl, ?_⟩
    simp [notMem_of_isHexNumber h (show hexDigit? '\\' = none by decide)]
  | continuation h _ =>
    have hall : ∀ mark ∈ lineEnds, ∃ c more, mark = c :: more ∧ '\\' ∉ more := by
      simp [lineEnds]
    exact hall _ h

end Literal

/-! ## Every literal -/

namespace Marker.Text

variable {quote : Char} {inside : List Char}

theorem Inside.newline_notMem (h : Inside quote inside) : '\n' ∉ inside := by
  induction h with
  | nil => exact List.not_mem_nil
  | plain _ _ hline _ ih =>
    rw [not_or] at hline
    exact List.not_mem_cons_of_ne_of_not_mem (Ne.symm hline.1) ih
  | escape hline _ ih =>
    exact List.not_mem_cons_of_ne_of_not_mem (by decide)
      (List.not_mem_cons_of_ne_of_not_mem (Ne.symm hline) ih)

/-- Characters other than backslashes belong to no escape sequence after them. -/
theorem Inside.of_append {front rest : List Char} (h : Inside quote (front ++ rest))
    (hfront : '\\' ∉ front) : Inside quote rest := by
  induction front with
  | nil => exact h
  | cons c front ih =>
    rw [List.mem_cons, not_or] at hfront
    rw [List.cons_append] at h
    generalize htail : front ++ rest = tail at h
    cases h with
    | plain _ _ _ more => exact ih (htail ▸ more) hfront.2
    | escape => exact absurd rfl hfront.1

/-- The text after an escape sequence is the inside of a literal as well. -/
theorem Inside.of_escape {sequence rest : List Char} {units : List Nat}
    (h : Inside quote ('\\' :: (sequence ++ rest)))
    (hescape : Literal.Escape sequence rest units) : Inside quote rest := by
  obtain ⟨c, more, rfl, hmore⟩ := hescape.exists_cons
  cases h with
  | plain _ hbackslash => exact absurd rfl hbackslash
  | escape _ hrest => exact hrest.of_append hmore

end Marker.Text

namespace Literal

open Text Marker.Text

/-- **Every literal** is well formed, or characters and escape sequences lead to a malformed escape
sequence or to a backslash before a digit. -/
theorem spelled_or_malformed {quote : Char} (inside : List Char) (h : Inside quote inside) :
    (∃ pieces, Spelled inside pieces)
      ∨ (∃ text, Leads inside ('\\' :: text) ∧ Malformed text)
      ∨ ∃ c rest, Leads inside ('\\' :: c :: rest) ∧ c.isDigit = true := by
  -- What comes after a character or an escape sequence is again the inside of a literal.
  induction hlength : inside.length using Nat.strong_induction_on generalizing inside with
  | _ length ih =>
    have hescape : ∀ sequence rest units, inside = '\\' :: (sequence ++ rest) →
        Escape sequence rest units →
        (∃ pieces, Spelled inside pieces)
          ∨ (∃ text, Leads inside ('\\' :: text) ∧ Malformed text)
          ∨ ∃ c rest, Leads inside ('\\' :: c :: rest) ∧ c.isDigit = true := by
      rintro sequence rest units rfl hsequence
      have hshort : rest.length < length := by
        rw [← hlength, List.length_cons, List.length_append]
        omega
      refine (ih _ hshort rest (h.of_escape hsequence) rfl).imp ?_ (Or.imp ?_ ?_)
      · exact fun ⟨pieces, hpieces⟩ => ⟨_, .escape hsequence hpieces⟩
      · exact fun ⟨text, hleads, hbad⟩ => ⟨text, .escape hsequence hleads, hbad⟩
      · exact fun ⟨c, more, hleads, hc⟩ => ⟨c, more, .escape hsequence hleads, hc⟩
    cases h with
    | nil => exact .inl ⟨[], .nil⟩
    | @plain c rest _ hbackslash _ more =>
      refine (ih _ (by rw [← hlength]; exact Nat.lt_succ_self _) rest more rfl).imp ?_ (Or.imp ?_ ?_)
      · exact fun ⟨pieces, hpieces⟩ => ⟨_, .plain hbackslash hpieces⟩
      · exact fun ⟨text, hleads, hbad⟩ => ⟨text, .plain hbackslash hleads, hbad⟩
      · exact fun ⟨c, more, hleads, hc⟩ => ⟨c, more, .plain hbackslash hleads, hc⟩
    | @escape c rest hline more =>
      by_cases hletter : c = 'x' ∨ c = 'u'
      · by_cases hwell : ∃ sequence after units, c :: rest = sequence ++ after
            ∧ Escape sequence after units
        · obtain ⟨sequence, after, units, hsplit, hsequence⟩ := hwell
          exact hescape sequence after units (by rw [hsplit]) hsequence
        · refine .inr (.inl ⟨c :: rest, .refl _, by simpa using hletter, ?_⟩)
          exact fun sequence after units hsplit hsequence =>
            hwell ⟨sequence, after, units, hsplit, hsequence⟩
      · by_cases hdigit : c.isDigit = true
        · exact .inr (.inr ⟨c, rest, .refl _, hdigit⟩)
        · by_cases hend : [c] ∈ lineEnds
          · refine hescape [c] rest [] rfl (.continuation hend fun _ hhead => ?_)
            obtain ⟨after, rfl⟩ := List.head?_eq_some_iff.1 hhead
            exact more.newline_notMem List.mem_cons_self
          · by_cases hcontrol : c ∈ controls.map Prod.fst
            · obtain ⟨⟨_, code⟩, hcode, rfl⟩ := List.mem_map.1 hcontrol
              exact hescape _ rest [code] rfl (.control hcode)
            · exact hescape [c] rest _ rfl
                (.self hletter (Bool.not_eq_true _ ▸ hdigit) hcontrol hend)

end Literal

end Phrasebook
