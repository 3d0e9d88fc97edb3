import Mathlib.Tactic.SplitIfs
import Phrasebook.Json.Reader
import Phrasebook.Json.Value

/-!
# Quoted texts read back

What `Json.quote` writes, the reader of quoted texts reads back, whatever follows it.

Results:
* `Json.textFrom_escape`: one written character is read as that character.
* `Json.run_textBody_quote`: a quoted text is read back and the rest is left.
-/

namespace Phrasebook.Json

open Phrasebook.Text
open Reader

/-! ## Hexadecimal digits -/

theorem hexDigit?_hexDigit {value : Nat} (h : value < 16) :
    Literal.hexDigit? (hexDigit value) = some value := by
  have hall : ∀ value < 16, Literal.hexDigit? (hexDigit value) = some value := by decide
  exact hall value h

/-- A hexadecimal digit takes a byte or more, as every character does. -/
theorem length_le_byteLength (text : List Char) : text.length ≤ byteLength text := by
  induction text with
  | nil => exact Nat.le_refl 0
  | cons c rest ih =>
    have hpos := c.utf8Size_pos
    rw [List.length_cons, byteLength_cons]
    omega

/-- The escape of a control character, after its backslash. -/
theorem textFrom_control {c : Char} (h : c.toNat < 32) (rest : List Char) :
    textFrom false .escape
        ('u' :: '0' :: '0' :: hexDigit (c.toNat / 16) :: hexDigit (c.toNat % 16) :: rest)
      = (textFrom false .plain rest).map fun (text, after) => (c :: text, after) := by
  have hhigh := hexDigit?_hexDigit (show c.toNat / 16 < 16 by omega)
  have hlow := hexDigit?_hexDigit (show c.toNat % 16 < 16 by omega)
  have hzero : Literal.hexDigit? '0' = some 0 := by decide
  have hlength : ¬ byteLength
      ('0' :: '0' :: hexDigit (c.toNat / 16) :: hexDigit (c.toNat % 16) :: rest) < 4 := by
    have := length_le_byteLength
      ('0' :: '0' :: hexDigit (c.toNat / 16) :: hexDigit (c.toNat % 16) :: rest)
    simp only [List.length_cons] at this
    omega
  have hvalue : ((0 * 16 + 0) * 16 + 0) * 16 + c.toNat / 16 = c.toNat / 16 := by omega
  rw [textFrom, if_pos rfl, if_neg hlength]
  simp only [textFrom, hzero, hhigh, hlow, hvalue]
  have hchar : Char.ofNat (c.toNat / 16 * 16 + c.toNat % 16) = c := by
    rw [Nat.div_add_mod' c.toNat 16]
    exact Char.ofNat_toNat c
  have hplain : ¬ (0xDC00 ≤ c.toNat / 16 * 16 + c.toNat % 16
      ∧ c.toNat / 16 * 16 + c.toNat % 16 < 0xE000) := by omega
  have hpaired : ¬ (0xD800 ≤ c.toNat / 16 * 16 + c.toNat % 16
      ∧ c.toNat / 16 * 16 + c.toNat % 16 < 0xDC00) := by omega
  simp [hplain, hpaired, hchar]

/-! ## Characters and texts -/

/-- **One written character is read as that character.** -/
theorem textFrom_escape (c : Char) (rest : List Char) :
    textFrom false .plain (escape c ++ rest)
      = (textFrom false .plain rest).map fun (text, after) => (c :: text, after) := by
  -- A named escape is a backslash and a letter for the character.
  have named : ∀ letter, letter ≠ 'u' → escaped? letter = some c →
      textFrom false .plain ('\\' :: letter :: rest)
        = (textFrom false .plain rest).map fun (text, after) => (c :: text, after) := by
    intro letter hletter hescaped
    rw [textFrom, if_neg (by decide), if_pos rfl, textFrom, if_neg hletter]
    simp only [hescaped]
  have ofCode : ∀ code : Char, c.toNat = code.toNat → c = code := fun code h => Char.toNat_inj.1 h
  unfold escape
  split_ifs with hquote hslash hline hreturn htab hback hfeed hcontrol
  · subst hquote; exact named '"' (by decide) rfl
  · subst hslash; exact named '\\' (by decide) rfl
  · subst hline; exact named 'n' (by decide) rfl
  · subst hreturn; exact named 'r' (by decide) rfl
  · subst htab; exact named 't' (by decide) rfl
  · exact named 'b' (by decide) (by rw [ofCode '\x08' hback]; rfl)
  · exact named 'f' (by decide) (by rw [ofCode '\x0c' hfeed]; rfl)
  · rw [← textFrom_control hcontrol rest]
    rw [List.cons_append, textFrom, if_neg (by decide), if_pos rfl]
    rfl
  · rw [List.singleton_append, textFrom, if_neg hquote, if_neg hslash, if_neg hcontrol]

/-- The characters of a text in quotes. -/
def quoteChars (text : String) : List Char := '"' :: (text.toList.flatMap escape ++ ['"'])

theorem toList_quote (text : String) : (quote text).toList = quoteChars text := by
  unfold quote quoteChars
  rw [String.toList_ofList]
  rfl

/-- What stands after the opening quote is read up to the closing one. -/
theorem textFrom_flatMap_escape (text rest : List Char) :
    textFrom false .plain (text.flatMap escape ++ '"' :: rest) = .ok (text, rest) := by
  induction text with
  | nil => rw [List.flatMap_nil, List.nil_append, textFrom, if_pos rfl]
  | cons c text ih =>
    rw [List.flatMap_cons, List.append_assoc, textFrom_escape, ih]
    rfl

/-- **A quoted text is read back**, and what follows it is left. -/
theorem run_textBody_quote (text : String) (rest : List Char) :
    StateT.run (textBody false) ((text.toList.flatMap escape ++ ['"']) ++ rest)
      = .ok (text, rest) := by
  have hread := textFrom_flatMap_escape text.toList rest
  rw [List.append_assoc, List.singleton_append]
  unfold textBody
  rw [StateT.run_bind, StateT.run_get]
  simp only [pure_bind, hread]
  rw [StateT.run_bind, StateT.run_set]
  simp only [pure_bind, StateT.run_pure, String.ofList_toList]
  rfl

end Phrasebook.Json
