import Phrasebook.Proofs.WrittenCalls
import Phrasebook.Script.Lexer
import Phrasebook.Settings.Validity

/-!
# Tokens of written texts

The tokens of a script that a written marker call consists of: the marker as a word, symbols, and
quoted texts as strings. They are read the same way wherever they stand, also where the signs `<`
and `>` stand alone.

Results:
* `readWordFrom_append`: a word ends before a character that no identifier has.
* `splitString_of_inString`, `splitTemplate_of_inTemplate`: strings and templates are split at their
  closing quotes.
* `decodeFrom_flatMap_escape`: an escaped text is decoded to its characters.
-/

namespace Phrasebook.Script

open Phrasebook.Text

/-! ## Gaps -/

/-- The character starts a token, whatever stands after it: it neither belongs to a gap nor opens a
comment or a merge mark. -/
def startsToken (c : Char) : Bool :=
  !isLineEnd c && !isSpace c && !(['/', '<', '-', '=', '>'].contains c)

theorem skipGap_of_startsToken {c : Char} (hc : startsToken c = true) (alone : Bool) (offset : Nat)
    (newline : Bool) (mark? : Option Nat) (rest : List Char) :
    skipGap alone .between offset newline mark? (c :: rest)
      = ⟨offset, c :: rest, newline, mark?⟩ := by
  simp only [startsToken, Bool.and_eq_true, Bool.not_eq_true', List.contains_eq_mem,
    decide_eq_false_iff_not, List.mem_cons, List.not_mem_nil, or_false, not_or] at hc
  obtain ⟨⟨hend, hspace⟩, hslash, hless, hdash, hequal, hmore⟩ := hc
  have hmerge : startsMergeMark alone (c :: rest) = false := by
    simp [startsMergeMark, List.isPrefixOf, Ne.symm hless, Ne.symm hequal, Ne.symm hmore]
  rw [skipGap]
  simp [hend, hspace, hslash, hless, hdash, hmerge]

namespace Lexeme

/-- A token that no gap precedes starts where it is read. -/
theorem next_of_readToken {c : Char} {rest after : List Char} {token : Token} {alone : Bool}
    {offset stop : Nat} (hc : startsToken c = true)
    (hread : readToken alone offset (c :: rest) = (token, stop, after)) (atStart : Bool) :
    Lexeme.next alone offset atStart (c :: rest) = ⟨token, offset, stop, atStart, after⟩ := by
  unfold Lexeme.next
  rw [skipGap_of_startsToken hc]
  dsimp only
  rw [hread]
  rfl

theorem next_nil (alone : Bool) (offset : Nat) (atStart : Bool) :
    Lexeme.next alone offset atStart [] = ⟨.finish, offset, offset, atStart, []⟩ := rfl

end Lexeme

/-! ## Words -/

theorem readWordFrom_append {word after : List Char} {c : Char}
    (hword : ∀ d ∈ word, isIdentifierPart d = true) (hc : isIdentifierPart c = false)
    (hbackslash : c ≠ '\\') (escaped : Bool) (offset : Nat) :
    readWordFrom .plain escaped offset (word ++ c :: after)
      = ⟨some word, escaped, offset + byteLength word, c :: after⟩ := by
  induction word generalizing offset with
  | nil =>
    rw [List.nil_append, readWordFrom, if_neg hbackslash, if_neg (by simp [hc])]
    rfl
  | cons d word ih =>
    have hd : isIdentifierPart d = true := hword d List.mem_cons_self
    have hne : d ≠ '\\' := by
      rintro rfl
      revert hd
      decide
    rw [List.cons_append, readWordFrom, if_neg hne, if_pos hd,
      ih fun e he => hword e (List.mem_cons_of_mem d he), byteLength_cons, Nat.add_assoc]
    rfl

theorem startsMarker_lt {c : Char} (h : Settings.startsMarker c = true) : c.toNat < 0x80 := by
  simp only [Settings.startsMarker, Bool.or_eq_true, beq_iff_eq] at h
  rcases h with (hletter | rfl) | rfl
  · rcases Bool.or_eq_true_iff.1 hletter with hupper | hlower
    · have hle : c.val ≤ 'Z'.val := (of_decide_eq_true hupper).2
      exact Nat.lt_of_le_of_lt hle (by decide)
    · have hle : c.val ≤ 'z'.val := of_decide_eq_true (Bool.and_eq_true_iff.1 hlower).2
      exact Nat.lt_of_le_of_lt hle (by decide)
  · decide
  · decide

theorem startsToken_of_startsMarker {c : Char} (h : Settings.startsMarker c = true) :
    startsToken c = true := by
  have hascii : ∀ code < 0x80, Settings.startsMarker (Char.ofNat code) = true →
      startsToken (Char.ofNat code) = true := by decide
  have hc := hascii c.toNat (startsMarker_lt h)
  rw [Char.ofNat_toNat] at hc
  exact hc h

theorem isIdentifierStart_of_startsMarker {c : Char} (h : Settings.startsMarker c = true) :
    isIdentifierStart c = true := by
  unfold isIdentifierStart
  rw [if_pos (startsMarker_lt h)]
  simp only [Settings.startsMarker, Bool.or_eq_true] at h ⊢
  exact or_right_comm.1 h

theorem isIdentifierPart_of_isDigit {c : Char} (h : c.isDigit = true) :
    isIdentifierPart c = true := by
  have hlt : c.toNat < 0x80 := by
    simp only [Char.isDigit, Bool.and_eq_true, decide_eq_true_eq] at h
    exact Nat.lt_of_le_of_lt h.2 (by decide)
  unfold isIdentifierPart
  rw [if_pos hlt]
  simp [Char.isAlphanum, h]

/-- The characters of a marker are those of an identifier. -/
theorem forall_isIdentifierPart_of_isMarker {marker : String}
    (h : Settings.isMarker marker = true) : ∀ c ∈ marker.toList, isIdentifierPart c = true := by
  obtain ⟨first, more, hchars, hfirst, hmore⟩ := Settings.exists_of_isMarker h
  rw [hchars]
  refine List.forall_mem_cons.2
    ⟨isIdentifierPart_of_start (isIdentifierStart_of_startsMarker hfirst), fun c hc => ?_⟩
  rcases hmore c hc with hmarker | hdigit
  · exact isIdentifierPart_of_start (isIdentifierStart_of_startsMarker hmarker)
  · exact isIdentifierPart_of_isDigit hdigit

/-- The name of the member that a marker call calls is a word of its own. -/
theorem readToken_member {c : Char} (hc : isIdentifierPart c = false) (hbackslash : c ≠ '\\')
    (alone : Bool) (offset : Nat) (after : List Char) :
    readToken alone offset ('s' :: c :: after) = (.word "s", offset + 1, c :: after) := by
  have hread : readWordFrom .plain false offset (['s'] ++ c :: after) = _ :=
    readWordFrom_append (List.forall_mem_singleton.2 rfl) hc hbackslash false offset
  unfold readToken
  dsimp only
  rw [if_pos (Or.inl (by decide)), ← List.singleton_append, hread]
  rfl

/-- A dot is a symbol of its own before anything but a digit or another dot. -/
theorem readToken_dot {d : Char} (hdigit : d.isDigit = false) (hdot : d ≠ '.') (alone : Bool)
    (offset : Nat) (rest : List Char) :
    readToken alone offset ('.' :: d :: rest) = (.symbol ".", offset + 1, d :: rest) := by
  have hstart : ¬(isIdentifierStart '.' = true ∨ '.' = '\\') := by decide
  have hnumber : ¬('.'.isDigit = true ∨ '.' = '.' ∧ (d :: rest).head?.any Char.isDigit = true) := by
    simp [hdigit]
  have hsymbol : dropSymbol alone ('.' :: d :: rest) = some (".", d :: rest) := by
    simp [dropSymbol, symbols, openBrace, closeBrace, List.isPrefixOf, Ne.symm hdot]
    rfl
  unfold readToken
  dsimp only
  rw [if_neg hstart, if_neg hnumber, if_neg (by decide), if_neg (by simp), hsymbol]
  rfl

/-! ## Strings -/

theorem splitString_quote (quote : Char) (offset : Nat) (after : List Char) :
    splitString quote offset (quote :: after) = ([], true, offset + 1, after) := by
  rw [splitString.eq_def]
  cases after <;> exact if_pos rfl

theorem splitString_plain {quote c : Char} (hquote : c ≠ quote) (hbackslash : c ≠ '\\')
    (hline : ¬(c = '\n' ∨ c = '\r')) (offset : Nat) {rest : List Char} (hrest : rest ≠ []) :
    splitString quote offset (c :: rest)
      = (splitString quote (offset + c.utf8Size) rest).map (c :: ·) id := by
  obtain ⟨d, rest, rfl⟩ := List.exists_cons_of_ne_nil hrest
  rw [splitString.eq_def]
  dsimp only
  rw [if_neg hquote, if_neg hline, if_neg hbackslash]
  rfl

theorem splitString_lineEnd {quote : Char} (hquote : '\\' ≠ quote) (offset : Nat)
    (rest : List Char) :
    splitString quote offset ('\\' :: '\r' :: '\n' :: rest)
      = (splitString quote (offset + 3) rest).map ('\\' :: '\r' :: '\n' :: ·) id := by
  rw [splitString.eq_def]
  dsimp only
  rw [if_neg hquote, if_neg (by decide), if_pos rfl]
  exact if_pos rfl

theorem splitString_escape {quote : Char} (hquote : '\\' ≠ quote) (offset : Nat) (d : Char)
    {rest : List Char} (hrest : rest.head? ≠ some '\n') :
    splitString quote offset ('\\' :: d :: rest)
      = (splitString quote (offset + 1 + d.utf8Size) rest).map ('\\' :: d :: ·) id := by
  rw [splitString.eq_def]
  dsimp only
  rw [if_neg hquote, if_neg (by decide), if_pos rfl]
  split
  · exact absurd rfl hrest
  · rfl

/-- What stands between the quotes of a string: characters other than the quote, a backslash and the
ends of lines, and backslashes, each with the character or the end of a line after it. -/
inductive InString (quote : Char) : List Char → Prop
  | nil : InString quote []
  | plain {c : Char} {rest : List Char} (hquote : c ≠ quote) (hbackslash : c ≠ '\\')
      (hline : ¬(c = '\n' ∨ c = '\r')) (more : InString quote rest) : InString quote (c :: rest)
  | escape {c : Char} {rest : List Char} (more : InString quote rest) :
      InString quote ('\\' :: c :: rest)
  | lineEnd {rest : List Char} (more : InString quote rest) :
      InString quote ('\\' :: '\r' :: '\n' :: rest)

/-- **The inside of a literal of a marker text is the inside of a string of a script.** -/
theorem inString_of_inside {quote : Char} {inside : List Char}
    (h : Marker.Text.Inside quote inside) : InString quote inside := by
  induction h with
  | nil => exact .nil
  | plain hquote hbackslash hline _ ih => exact .plain hquote hbackslash hline ih
  | escape _ _ ih => exact .escape ih

/-- No line ends where the inside of a string begins. -/
theorem InString.head?_ne {quote : Quote} {inside : List Char} (h : InString quote.char inside)
    (after : List Char) : (inside ++ quote.char :: after).head? ≠ some '\n' := by
  cases h with
  | nil => cases quote <;> rintro ⟨⟩
  | plain _ _ hline _ =>
    rintro ⟨rfl⟩
    exact hline (Or.inl rfl)
  | escape _ => rintro ⟨⟩
  | lineEnd _ => rintro ⟨⟩

/-- **A string is split at its closing quote**, whatever stands after it. -/
theorem splitString_of_inString {quote : Quote} {inside : List Char}
    (h : InString quote.char inside) (offset : Nat) (after : List Char) :
    splitString quote.char offset (inside ++ quote.char :: after)
      = (inside, true, offset + byteLength inside + 1, after) := by
  have hbackslash : '\\' ≠ quote.char := by cases quote <;> decide
  induction h generalizing offset with
  | nil => rw [List.nil_append, splitString_quote, byteLength_nil, Nat.add_zero]
  | plain hquote hplain hline more ih =>
    rw [List.cons_append, splitString_plain hquote hplain hline offset (by simp), ih,
      byteLength_cons, Nat.add_assoc offset]
    rfl
  | @escape c inside more ih =>
    rw [List.cons_append, List.cons_append, splitString_escape hbackslash offset c
      (more.head?_ne after), ih]
    have hlength : byteLength ('\\' :: c :: inside) = 1 + c.utf8Size + byteLength inside :=
      (Nat.add_assoc ..).symm
    rw [hlength, Nat.add_assoc offset, ← Nat.add_assoc offset (1 + c.utf8Size)]
    rfl
  | @lineEnd inside more ih =>
    have hlength : byteLength ('\\' :: '\r' :: '\n' :: inside) = 3 + byteLength inside := by
      have hone : '\\'.utf8Size = 1 ∧ '\r'.utf8Size = 1 ∧ '\n'.utf8Size = 1 := ⟨rfl, rfl, rfl⟩
      simp only [byteLength_cons, hone]
      omega
    rw [List.cons_append, List.cons_append, List.cons_append, splitString_lineEnd hbackslash, ih,
      hlength, ← Nat.add_assoc offset]
    rfl

/-- What stands between the quotes of a template without substitutions: characters other than the
quote and a backslash, no dollar sign before a brace, and backslashes, each with the character after
it. -/
inductive InTemplate : List Char → Prop
  | nil : InTemplate []
  | plain {c : Char} {rest : List Char} (hquote : c ≠ '`') (hbackslash : c ≠ '\\')
      (hdollar : ¬(c = '$' ∧ rest.head? = some '{')) (more : InTemplate rest) :
      InTemplate (c :: rest)
  | escape {c : Char} {rest : List Char} (more : InTemplate rest) : InTemplate ('\\' :: c :: rest)

/-- **A template without substitutions is split at its closing quote**, whatever stands after it. -/
theorem splitTemplate_of_inTemplate {inside : List Char} (h : InTemplate inside) (offset : Nat)
    (after : List Char) :
    splitTemplate offset (inside ++ '`' :: after)
      = some (inside, false, offset + byteLength inside + 1, after) := by
  induction h generalizing offset with
  | nil =>
    rw [List.nil_append, splitTemplate.eq_def]
    cases after <;> rfl
  | @plain c inside hquote hbackslash hdollar more ih =>
    have hnext : ∃ d tail, inside ++ '`' :: after = d :: tail ∧ ¬(c = '$' ∧ d = '{') := by
      cases inside with
      | nil => exact ⟨'`', after, rfl, by simp⟩
      | cons d tail => exact ⟨d, _, rfl, by simpa using hdollar⟩
    obtain ⟨d, tail, htail, hopen⟩ := hnext
    have hrest := ih (offset + c.utf8Size)
    rw [htail] at hrest
    rw [List.cons_append, htail, splitTemplate, if_neg hquote, if_neg hopen, if_neg hbackslash,
      hrest, byteLength_cons, Nat.add_assoc offset]
    rfl
  | @escape c inside more ih =>
    have hlength : byteLength ('\\' :: c :: inside) = 1 + c.utf8Size + byteLength inside :=
      (Nat.add_assoc ..).symm
    rw [List.cons_append, List.cons_append, splitTemplate, if_neg (by decide), if_neg (by simp),
      if_pos rfl, ih, hlength, ← Nat.add_assoc offset, ← Nat.add_assoc offset]
    rfl

/-- The quote of a template that ends is a symbol. -/
theorem readToken_template {offset : Nat} {rest : List Char}
    {found : List Char × Bool × Nat × List Char}
    (hsplit : splitTemplate (offset + 1) rest = some found) (alone : Bool) :
    readToken alone offset ('`' :: rest) = (.symbol "`", offset + 1, rest) := by
  have hsymbol : dropSymbol alone ('`' :: rest) = some ("`", rest) := by cases alone <;> rfl
  unfold readToken
  dsimp only
  rw [if_neg (by decide), if_neg (by simp), if_neg (by decide), if_neg (by simp [hsplit]), hsymbol]
  rfl

/-- What is written for one character is read as that character. -/
theorem decodeFrom_escape (quote : Quote) (c : Char) (rest : List Char) :
    ∃ piece, piece.code? = some c.toNat
      ∧ decodeFrom false .plain (Literal.escape quote c ++ rest)
        = (decodeFrom false .plain rest).map (piece :: ·) := by
  unfold Literal.escape
  split
  · next hc => subst hc; exact ⟨.escape (some 92), rfl, rfl⟩
  split
  · next hc => subst hc; exact ⟨.escape (some 10), rfl, rfl⟩
  split
  · next hc => subst hc; exact ⟨.escape (some 13), rfl, rfl⟩
  split
  · next hc => subst hc; exact ⟨.escape (some 0x2028), rfl, rfl⟩
  split
  · next hc => subst hc; exact ⟨.escape (some 0x2029), rfl, rfl⟩
  split
  · next hc =>
    subst hc
    exact ⟨.escape (some quote.char.toNat), rfl, by cases quote <;> rfl⟩
  · next hbackslash _ _ _ _ _ =>
    refine ⟨.plain c.toNat, rfl, ?_⟩
    rw [List.singleton_append, decodeFrom, if_neg hbackslash, if_neg (by simp)]

theorem decodeFrom_flatMap_escape (quote : Quote) (text : List Char) :
    ∃ pieces, decodeFrom false .plain (text.flatMap (Literal.escape quote)) = .ok pieces
      ∧ pieces.filterMap Piece.code? = text.map Char.toNat := by
  induction text with
  | nil => exact ⟨[], rfl, rfl⟩
  | cons c rest ih =>
    obtain ⟨pieces, hpieces, hcodes⟩ := ih
    obtain ⟨piece, hcode, hpiece⟩ :=
      decodeFrom_escape quote c (rest.flatMap (Literal.escape quote))
    refine ⟨piece :: pieces, ?_, ?_⟩
    · rw [List.flatMap_cons, hpiece, hpieces]
      rfl
    · rw [List.filterMap_cons_some hcode, hcodes, List.map_cons]

theorem charOfCode?_toNat (c : Char) : Literal.charOfCode? c.toNat = some c := by
  unfold Literal.charOfCode?
  rw [if_pos (show c.toNat.isValidChar from c.valid), Char.ofNat_toNat]

/-- No character is half of a surrogate pair. -/
theorem textOfCodes_map_toNat (text : List Char) :
    textOfCodes (text.map Char.toNat) = some text := by
  induction text with
  | nil => rfl
  | cons c rest ih =>
    cases rest with
    | nil => rw [List.map_cons, List.map_nil, textOfCodes, charOfCode?_toNat, Option.map_some]
    | cons d rest =>
      have hsurrogate : ¬(0xD800 ≤ c.toNat ∧ c.toNat < 0xDC00 ∧ 0xDC00 ≤ d.toNat
          ∧ d.toNat < 0xE000) := by
        have hvalid : c.toNat.isValidChar := c.valid
        unfold Nat.isValidChar at hvalid
        omega
      rw [List.map_cons, List.map_cons, textOfCodes, if_neg hsurrogate, charOfCode?_toNat,
        ← List.map_cons, ih]
      rfl

end Phrasebook.Script
