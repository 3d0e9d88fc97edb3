import Mathlib.Data.List.TakeWhile
import Phrasebook.Script.Parser
import Phrasebook.Proofs.Splicing

/-!
# Offsets of tokens

Whatever is read of a script, its offset counts the bytes of what was passed, so a token never
starts or ends inside a character. `Passes` says this of the characters between two offsets, and
`Lexeme.Stands` of a token.

Results:
* `Lexeme.stands_next`: the token after an offset stands in the text.
* `Lexeme.Stands.following`: so does the token after one that does.
-/

namespace Phrasebook.Script

open Text

/-! ## Passed characters -/

/-- The characters of the text up to the rest are passed from an offset to another one. -/
def Passes (offset : Nat) (text : List Char) (stop : Nat) (rest : List Char) : Prop :=
  ∃ passed, text = passed ++ rest ∧ stop = offset + byteLength passed

namespace Passes

variable {offset middle stop : Nat} {text between rest : List Char} {c : Char}

theorem refl (offset : Nat) (text : List Char) : Passes offset text offset text := ⟨[], rfl, rfl⟩

theorem trans (hfirst : Passes offset text middle between)
    (hsecond : Passes middle between stop rest) : Passes offset text stop rest := by
  obtain ⟨front, rfl, rfl⟩ := hfirst
  obtain ⟨back, rfl, rfl⟩ := hsecond
  exact ⟨front ++ back, by simp, by rw [byteLength_append, Nat.add_assoc]⟩

/-- What follows an offset is one text. -/
theorem unique {after : List Char} (h : Passes 0 text offset rest)
    (hafter : Passes 0 text offset after) : rest = after := by
  obtain ⟨front, htext, rfl⟩ := h
  obtain ⟨other, hother, hlength⟩ := hafter
  have hrest := splitAtOffset_append front rest
  rw [← htext, hother, ← Nat.zero_add (byteLength front), hlength, Nat.zero_add,
    splitAtOffset_append] at hrest
  exact (Prod.mk.inj hrest).2.symm

theorem le (h : Passes offset text stop rest) : offset ≤ stop := by
  obtain ⟨passed, -, rfl⟩ := h
  exact Nat.le_add_right _ _

theorem cons (c : Char) (h : Passes (offset + c.utf8Size) text stop rest) :
    Passes offset (c :: text) stop rest := by
  obtain ⟨passed, rfl, rfl⟩ := h
  exact ⟨c :: passed, rfl, by rw [byteLength_cons, Nat.add_assoc]⟩

theorem single (hc : c.utf8Size = 1) (h : Passes (offset + 1) text stop rest) :
    Passes offset (c :: text) stop rest := cons c (hc.symm ▸ h)

theorem shift (h : Passes 0 text stop rest) (offset : Nat) :
    Passes offset text (offset + stop) rest := by
  obtain ⟨passed, rfl, rfl⟩ := h
  exact ⟨passed, rfl, by rw [Nat.zero_add]⟩

theorem append (passed rest : List Char) (offset : Nat) :
    Passes offset (passed ++ rest) (offset + byteLength passed) rest := ⟨passed, rfl, rfl⟩

/-- The characters after a start of the text. -/
theorem drop {piece : List Char} (h : piece <+: text) (offset : Nat) :
    Passes offset text (offset + byteLength piece) (text.drop piece.length) := by
  obtain ⟨rest, rfl⟩ := h
  rw [List.drop_left]
  exact append piece rest offset

end Passes

/-! ## Characters of one byte -/

theorem utf8Size_of_lt {c : Char} (h : c.toNat < 0x80) : c.utf8Size = 1 :=
  Char.utf8Size_eq_one_iff.2 (UInt32.le_iff_toNat_le.2 (Nat.le_of_lt_succ h))

theorem utf8Size_of_le {c d : Char} (h : c ≤ d) (hd : d.toNat < 0x80) : c.utf8Size = 1 :=
  utf8Size_of_lt (Nat.lt_of_le_of_lt h hd)

theorem utf8Size_of_hexDigit? {c : Char} {digit : Nat} (h : Literal.hexDigit? c = some digit) :
    c.utf8Size = 1 := by
  unfold Literal.hexDigit? at h
  split at h
  · next hc => exact utf8Size_of_le hc.2 (by decide)
  split at h
  · next hc => exact utf8Size_of_le hc.2 (by decide)
  split at h
  · next hc => exact utf8Size_of_le hc.2 (by decide)
  · cases h

theorem utf8Size_of_isDigit {c : Char} (h : c.isDigit = true) : c.utf8Size = 1 := by
  simp only [Char.isDigit, Bool.and_eq_true, decide_eq_true_eq] at h
  exact utf8Size_of_le h.2 (by decide)

theorem utf8Size_of_isDigitOrGap {c : Char} (h : isDigitOrGap c = true) : c.utf8Size = 1 := by
  rcases Bool.or_eq_true_iff.1 h with hdigit | hgap
  · exact utf8Size_of_isDigit hdigit
  · rw [beq_iff_eq.1 hgap]
    rfl

theorem eq_of_startsMergeMark {alone : Bool} {c : Char} {rest : List Char}
    (h : startsMergeMark alone (c :: rest) = true) : c = '=' ∨ c = '<' ∨ c = '>' := by
  simp [startsMergeMark] at h
  grind

theorem utf8Size_of_startsMergeMark {alone : Bool} {c : Char} {rest : List Char}
    (h : startsMergeMark alone (c :: rest) = true) : c.utf8Size = 1 := by
  rcases eq_of_startsMergeMark h with rfl | rfl | rfl <;> rfl

/-- Every character takes one byte. -/
def AllSingle (text : List Char) : Prop := ∀ c ∈ text, c.utf8Size = 1

instance : DecidablePred AllSingle := List.decidableBAll fun c : Char => c.utf8Size = 1

theorem AllSingle.byteLength {text : List Char} (h : AllSingle text) :
    byteLength text = text.length := by
  induction text with
  | nil => rfl
  | cons c rest ih =>
    obtain ⟨hc, hrest⟩ := List.forall_mem_cons.1 h
    rw [byteLength_cons, hc, ih hrest, List.length_cons, Nat.add_comm]

theorem allSingle_symbols : ∀ symbol ∈ symbols, AllSingle symbol.toList := by
  decide

/-! ## Blanks -/

theorem passes_skipGap (alone : Bool) (state : GapState) (offset : Nat) (newline : Bool)
    (mark? : Option Nat) (text : List Char) :
    Passes offset text (skipGap alone state offset newline mark? text).offset
      (skipGap alone state offset newline mark? text).rest := by
  have hslash : '/'.utf8Size = 1 := rfl
  have hstar : '*'.utf8Size = 1 := rfl
  have hless : '<'.utf8Size = 1 := rfl
  have hdash : '-'.utf8Size = 1 := rfl
  fun_induction skipGap alone state offset newline mark? text <;>
    grind [Passes.cons, Passes.refl, Passes.single, utf8Size_of_startsMergeMark]

/-- A mark lies between the offset and the end of the blanks, and no word starts there. -/
theorem mark_skipGap (alone : Bool) (state : GapState) (offset : Nat) (newline : Bool)
    (mark? : Option Nat) (text : List Char) (mark : Nat)
    (h : (skipGap alone state offset newline mark? text).mark? = some mark) :
    mark? = some mark ∨ ∃ c rest, isIdentifierStart c = false ∧ Passes offset text mark (c :: rest)
      ∧ Passes mark (c :: rest) (skipGap alone state offset newline mark? text).offset
        (skipGap alone state offset newline mark? text).rest := by
  have hslash : '/'.utf8Size = 1 := rfl
  have hstar : '*'.utf8Size = 1 := rfl
  -- Where a mark is set, the blanks that follow it are passed.
  have hset : ∀ {offset newline mark?} {c : Char} {rest : List Char}, c = '-' ∨ c = '=' ∨ c = '<'
        ∨ c = '>' →
      ((mark? <|> some offset) = some mark ∨ ∃ d back, isIdentifierStart d = false
        ∧ Passes (offset + 1) rest mark (d :: back) ∧ Passes mark (d :: back)
          (skipGap alone .lineComment (offset + 1) newline (mark? <|> some offset) rest).offset
          (skipGap alone .lineComment (offset + 1) newline (mark? <|> some offset) rest).rest) →
      mark? = some mark ∨ ∃ d back, isIdentifierStart d = false
        ∧ Passes offset (c :: rest) mark (d :: back) ∧ Passes mark (d :: back)
          (skipGap alone .lineComment (offset + 1) newline (mark? <|> some offset) rest).offset
          (skipGap alone .lineComment (offset + 1) newline (mark? <|> some offset) rest).rest := by
    rintro offset newline mark? c rest hc (hmark | ⟨d, back, hd, hfront, hback⟩)
    all_goals
      have hsize : c.utf8Size = 1 := by rcases hc with rfl | rfl | rfl | rfl <;> rfl
    · rcases mark? with _ | mark?
      · obtain rfl : offset = mark := by simpa using hmark
        have hword : isIdentifierStart c = false := by
          rcases hc with rfl | rfl | rfl | rfl <;> rfl
        exact .inr ⟨c, rest, hword, .refl _ _, .single hsize (passes_skipGap ..)⟩
      · exact .inl (by simpa using hmark)
    · exact .inr ⟨d, back, hd, .single hsize hfront, hback⟩
  fun_induction skipGap alone state offset newline mark? text with
  | case6 _ _ _ _ _ _ _ _ _ hc ih => exact hset (.inr (.inr (.inl hc.2.1))) (ih h)
  | case7 _ _ _ _ _ _ _ _ _ _ hc ih => exact hset (.inl hc.2.1) (ih h)
  | case8 _ _ _ _ _ _ _ _ _ _ _ hc ih => exact hset (.inr (eq_of_startsMergeMark hc.2)) (ih h)
  | _ => grind [Passes.cons, Passes.refl, Passes.single]

/-! ## Words and strings -/

theorem passes_readWordFrom (state : EscapeState) (escaped : Bool) (offset : Nat)
    (text : List Char) :
    Passes offset text (readWordFrom state escaped offset text).stop
      (readWordFrom state escaped offset text).rest := by
  have hbackslash : '\\'.utf8Size = 1 := rfl
  have hu : 'u'.utf8Size = 1 := rfl
  have hopen : '{'.utf8Size = 1 := rfl
  have hclose : '}'.utf8Size = 1 := rfl
  fun_induction readWordFrom state escaped offset text <;>
    grind [Passes.cons, Passes.refl, Passes.single, utf8Size_of_hexDigit?, WordReading.cons]

theorem passes_splitString {quote : Char} (hquote : quote.utf8Size = 1) (offset : Nat)
    (text : List Char) :
    Passes offset text (splitString quote offset text).2.2.1
      (splitString quote offset text).2.2.2 := by
  have hfeed : '\n'.utf8Size = 1 := rfl
  have hreturn : '\r'.utf8Size = 1 := rfl
  have hbackslash : '\\'.utf8Size = 1 := rfl
  fun_induction splitString quote offset text <;>
    grind [Passes.cons, Passes.refl, Passes.single]

/-- The inside of a string literal starts the text. -/
theorem prefix_splitString (quote : Char) (offset : Nat) (text : List Char) :
    (splitString quote offset text).1 <+: text := by
  fun_induction splitString quote offset text <;> grind

theorem passes_readString {quote : Char} (hquote : quote.utf8Size = 1) (offset : Nat)
    (text : List Char) :
    Passes offset text (readString quote offset text).2.1 (readString quote offset text).2.2 := by
  unfold readString
  dsimp only
  split
  · exact passes_splitString hquote offset text
  · next left _ =>
    -- As many characters as the decoder accepted are passed.
    have hread : (splitString quote offset text).1.take
        ((splitString quote offset text).1.length - left.length) <+: text :=
      (List.take_prefix _ _).trans (prefix_splitString quote offset text)
    have hpasses := Passes.drop hread offset
    rwa [List.length_take_of_le (Nat.sub_le _ _)] at hpasses

theorem passes_splitTemplate (offset : Nat) (text : List Char) :
    ∀ found, splitTemplate offset text = some found →
      Passes offset text found.2.2.1 found.2.2.2 := by
  have hquote : '`'.utf8Size = 1 := rfl
  have hdollar : '$'.utf8Size = 1 := rfl
  have hopen : '{'.utf8Size = 1 := rfl
  have hbackslash : '\\'.utf8Size = 1 := rfl
  fun_induction splitTemplate offset text <;>
    grind [Passes.cons, Passes.refl, Passes.single, Option.map_eq_some_iff]

/-! ## Numbers and symbols -/

/-- What is passed takes one byte for each character. -/
def PassesSingle (text rest : List Char) : Prop :=
  ∃ passed, text = passed ++ rest ∧ AllSingle passed

theorem PassesSingle.passes {text rest : List Char} (h : PassesSingle text rest) (offset : Nat) :
    Passes offset text (offset + (text.length - rest.length)) rest := by
  obtain ⟨passed, rfl, hpassed⟩ := h
  exact ⟨passed, rfl, by simp [hpassed.byteLength]⟩

namespace PassesSingle

theorem refl (text : List Char) : PassesSingle text text := ⟨[], rfl, by simp [AllSingle]⟩

theorem trans {text between rest : List Char} (hfirst : PassesSingle text between)
    (hsecond : PassesSingle between rest) : PassesSingle text rest := by
  obtain ⟨front, rfl, hfront⟩ := hfirst
  obtain ⟨back, rfl, hback⟩ := hsecond
  refine ⟨front ++ back, by simp, fun c hc => ?_⟩
  exact (List.mem_append.1 hc).elim (hfront c) (hback c)

theorem cons {c : Char} {text rest : List Char} (hc : c.utf8Size = 1)
    (h : PassesSingle text rest) : PassesSingle (c :: text) rest := by
  obtain ⟨passed, rfl, hpassed⟩ := h
  exact ⟨c :: passed, rfl, List.forall_mem_cons.2 ⟨hc, hpassed⟩⟩

theorem dropWhile {condition : Char → Bool} (h : ∀ c, condition c = true → c.utf8Size = 1)
    (text : List Char) : PassesSingle text (text.dropWhile condition) :=
  ⟨text.takeWhile condition, List.takeWhile_append_dropWhile.symm,
    fun c hc => h c (List.mem_takeWhile_imp hc)⟩

end PassesSingle

theorem passesSingle_dropBased {isBaseDigit : Char → Bool}
    (h : ∀ c, isBaseDigit c = true → c.utf8Size = 1) (text : List Char) :
    PassesSingle text (dropBased isBaseDigit text).2 := by
  have hpart : ∀ c, (isBaseDigit c || c == '_') = true → c.utf8Size = 1 := by
    intro c hc
    rcases Bool.or_eq_true_iff.1 hc with hdigit | hgap
    · exact h c hdigit
    · rw [beq_iff_eq.1 hgap]
      rfl
  have hdrop := PassesSingle.dropWhile hpart text
  unfold dropBased
  dsimp only
  split
  · split
    · next rest heq =>
      rw [heq] at hdrop
      exact hdrop.trans (.cons rfl (.refl _))
    · exact hdrop
  · exact .refl _

theorem passesSingle_dropExponent (text : List Char) :
    PassesSingle text (dropExponent text).2 := by
  have hdrop := PassesSingle.dropWhile (fun _ => utf8Size_of_isDigitOrGap)
  have he : 'e'.utf8Size = 1 := rfl
  have hE : 'E'.utf8Size = 1 := rfl
  have hplus : '+'.utf8Size = 1 := rfl
  have hminus : '-'.utf8Size = 1 := rfl
  unfold dropExponent
  grind [PassesSingle.cons, PassesSingle.refl, PassesSingle.trans]

theorem passesSingle_dropDecimal (text : List Char) :
    PassesSingle text (dropDecimal text).2 := by
  have hdrop := PassesSingle.dropWhile (fun _ => utf8Size_of_isDigitOrGap)
  have hn : 'n'.utf8Size = 1 := rfl
  have hdot : '.'.utf8Size = 1 := rfl
  unfold dropDecimal
  grind [PassesSingle.cons, PassesSingle.refl, PassesSingle.trans, passesSingle_dropExponent]

theorem passesSingle_dropNumber (text : List Char) :
    PassesSingle text (dropNumber text).2 := by
  have hhex : ∀ c, (Literal.hexDigit? c).isSome = true → c.utf8Size = 1 := by
    intro c hc
    obtain ⟨digit, hdigit⟩ := Option.isSome_iff_exists.1 hc
    exact utf8Size_of_hexDigit? hdigit
  have hoctal : ∀ c : Char, ('0' ≤ c && c ≤ '7') = true → c.utf8Size = 1 := by
    intro c hc
    exact utf8Size_of_le (of_decide_eq_true (Bool.and_eq_true_iff.1 hc).2) (by decide)
  have hbinary : ∀ c : Char, (c == '0' || c == '1') = true → c.utf8Size = 1 := by
    intro c hc
    rcases Bool.or_eq_true_iff.1 hc with hzero | hone
    · rw [beq_iff_eq.1 hzero]
      rfl
    · rw [beq_iff_eq.1 hone]
      rfl
  have hzero : '0'.utf8Size = 1 := rfl
  have hx : 'x'.utf8Size = 1 ∧ 'X'.utf8Size = 1 := ⟨rfl, rfl⟩
  have ho : 'o'.utf8Size = 1 ∧ 'O'.utf8Size = 1 := ⟨rfl, rfl⟩
  have hb : 'b'.utf8Size = 1 ∧ 'B'.utf8Size = 1 := ⟨rfl, rfl⟩
  have hbased := passesSingle_dropBased hhex
  have hbased' := passesSingle_dropBased hoctal
  have hbased'' := passesSingle_dropBased hbinary
  unfold dropNumber
  grind [PassesSingle.cons, passesSingle_dropDecimal]

theorem of_dropSymbol {alone : Bool} {text after : List Char} {symbol : String}
    (h : dropSymbol alone text = some (symbol, after)) :
    symbol ∈ symbols ∧ text = symbol.toList ++ after := by
  unfold dropSymbol at h
  obtain ⟨found, hfind, heq⟩ := Option.map_eq_some_iff.1 h
  obtain ⟨rfl, rfl⟩ := Prod.mk.inj heq
  have hprefix := List.find?_some hfind
  simp only [Bool.and_eq_true] at hprefix
  refine ⟨List.mem_of_find?_eq_some hfind, ?_⟩
  obtain ⟨rest, rfl⟩ := List.isPrefixOf_iff_prefix.1 hprefix.1.1
  rw [← String.length_toList, List.drop_left]

/-! ## Tokens -/

/-- The token ends with a symbol that starts no earlier than it. -/
def EndsWith (symbol : String) (start stop : Nat) (text rest : List Char) : Prop :=
  AllSingle symbol.toList ∧ symbol ≠ "" ∧ ∃ offset, start ≤ offset ∧ stop = offset + symbol.length
    ∧ Passes 0 text offset (symbol.toList ++ rest)

/-- A token that may stand where another one is written: the end of an enum's member, the text of
markup, and what nothing can be read after. -/
def Token.StandsIn (token : Token) : Prop :=
  token = .symbol "," ∨ token = .markupText ∨ token = .deadEnd

/-- The token stands in the text: it starts and ends between characters. Where a word is written it
is that word, unless it stands in for it. -/
structure Lexeme.Stands (text : List Char) (lexeme : Lexeme) : Prop where
  start : ∃ rest, Passes 0 text lexeme.start rest
  stop : Passes 0 text lexeme.stop lexeme.rest
  le : lexeme.start ≤ lexeme.stop
  symbol : ∀ symbol, lexeme.token = .symbol symbol → symbol ≠ "," →
    EndsWith symbol lexeme.start lexeme.stop text lexeme.rest
  word : ∀ c rest, isIdentifierStart c = true → Passes 0 text lexeme.start (c :: rest) →
    readToken false lexeme.start (c :: rest) = (lexeme.token, lexeme.stop, lexeme.rest)
      ∨ lexeme.token.StandsIn

theorem ne_empty_of_mem_symbols {symbol : String} (h : symbol ∈ symbols) : symbol ≠ "" := by
  rintro rfl
  revert h
  decide

theorem length_pos_of_ne_empty {symbol : String} (h : symbol ≠ "") : 0 < symbol.length := by
  rw [← String.length_toList]
  exact List.length_pos_iff.2 (by simpa using h)

namespace EndsWith

variable {symbol : String} {start stop : Nat} {text rest : List Char}

theorem lt (h : EndsWith symbol start stop text rest) : start < stop := by
  obtain ⟨-, hne, offset, hle, rfl, -⟩ := h
  have := length_pos_of_ne_empty hne
  omega

theorem passes (h : EndsWith symbol start stop text rest) : Passes 0 text stop rest := by
  obtain ⟨hsingle, -, offset, -, rfl, hpasses⟩ := h
  refine hpasses.trans ⟨symbol.toList, rfl, ?_⟩
  rw [hsingle.byteLength, String.length_toList]

/-- The second character of a symbol. -/
theorem second {c d : Char} (h : EndsWith (String.ofList [c, d]) start stop text rest) :
    start ≤ stop - 1 ∧ Passes 0 text (stop - 1) (d :: rest) := by
  obtain ⟨hsingle, -, offset, hle, rfl, hpasses⟩ := h
  rw [String.toList_ofList] at hsingle hpasses
  have hlength : (String.ofList [c, d]).length = 2 := by simp
  have hstop : offset + (String.ofList [c, d]).length - 1 = offset + 1 := by omega
  rw [hstop]
  exact ⟨Nat.le_succ_of_le hle,
    hpasses.trans (.single (hsingle c List.mem_cons_self) (.refl _ _))⟩

/-- A token that ends with a symbol stands in the text. -/
theorem stands {lexeme : Lexeme}
    (hends : EndsWith symbol lexeme.start lexeme.stop text lexeme.rest)
    (hstart : ∃ c rest, isIdentifierStart c = false ∧ Passes 0 text lexeme.start (c :: rest))
    (htoken : lexeme.token = .symbol symbol) : lexeme.Stands text where
  start := hstart.elim fun c ⟨rest, _, hpasses⟩ => ⟨c :: rest, hpasses⟩
  stop := hends.passes
  le := hends.lt.le
  symbol other hother _ := by
    obtain rfl : symbol = other := Token.symbol.inj (htoken.symm.trans hother)
    exact hends
  word c rest hc hpasses := by
    obtain ⟨d, _, hd, hother⟩ := hstart
    obtain ⟨rfl, -⟩ := List.cons.inj (hpasses.unique hother)
    rw [hc] at hd
    cases hd

end EndsWith

theorem passes_readToken (alone : Bool) (offset : Nat) (text : List Char) :
    Passes offset text (readToken alone offset text).2.1 (readToken alone offset text).2.2 := by
  unfold readToken
  split
  · exact .refl _ _
  next c rest =>
  split
  · have hword := passes_readWordFrom .plain false offset (c :: rest)
    dsimp only
    split <;> exact hword
  split
  · exact (passesSingle_dropNumber (c :: rest)).passes offset
  split
  · next hquote =>
    have hc : c.utf8Size = 1 := by rcases hquote with rfl | rfl <;> rfl
    exact .single hc (passes_readString hc _ _)
  split
  · exact ⟨c :: rest, by simp, rfl⟩
  split
  · next symbol after heq =>
    obtain ⟨hmem, htext⟩ := of_dropSymbol heq
    rw [htext]
    refine ⟨symbol.toList, rfl, ?_⟩
    rw [(allSingle_symbols symbol hmem).byteLength, String.length_toList]
  · exact ⟨[c], rfl, by simp⟩

theorem ne_symbol_dropNumber (text : List Char) (symbol : String) :
    (dropNumber text).1 ≠ .symbol symbol := by
  have hbased : ∀ isBaseDigit text, (dropBased isBaseDigit text).1 ≠ .symbol symbol := by
    unfold dropBased
    grind
  have hexponent : ∀ text, (dropExponent text).1 ≠ .symbol symbol := by
    unfold dropExponent
    grind
  have hdecimal : ∀ text, (dropDecimal text).1 ≠ .symbol symbol := by
    unfold dropDecimal
    grind
  unfold dropNumber
  grind

theorem ne_symbol_readString (quote : Char) (offset : Nat) (text : List Char) (symbol : String) :
    (readString quote offset text).1 ≠ .symbol symbol := by
  unfold readString
  grind

theorem symbol_readToken {alone : Bool} {offset : Nat} {text : List Char} {symbol : String}
    (h : (readToken alone offset text).1 = .symbol symbol) :
    symbol ∈ symbols ∧ text = symbol.toList ++ (readToken alone offset text).2.2
      ∧ (readToken alone offset text).2.1 = offset + symbol.length := by
  have := @of_dropSymbol
  have := ne_symbol_dropNumber
  have := ne_symbol_readString
  unfold readToken at h ⊢
  grind

/-- A word is read the same way everywhere, and is no symbol. -/
theorem readToken_of_isIdentifierStart {c : Char} (hc : isIdentifierStart c = true) (alone : Bool)
    (offset : Nat) (rest : List Char) :
    readToken alone offset (c :: rest) = readToken false offset (c :: rest)
      ∧ ∀ symbol, (readToken alone offset (c :: rest)).1 ≠ .symbol symbol := by
  unfold readToken
  dsimp only
  rw [if_pos (Or.inl hc), if_pos (Or.inl hc)]
  refine ⟨rfl, fun symbol => ?_⟩
  split
  · dsimp only
    split <;> nofun
  · nofun

theorem Lexeme.stands_next {text rest : List Char} {offset : Nat} (alone atStart : Bool)
    (h : Passes 0 text offset rest) : (Lexeme.next alone offset atStart rest).Stands text
      ∧ offset ≤ (Lexeme.next alone offset atStart rest).start := by
  have hgap := passes_skipGap alone .between offset atStart none rest
  have hmark := mark_skipGap alone .between offset atStart none rest
  generalize hg : skipGap alone .between offset atStart none rest = gap at hgap hmark
  have htoken := passes_readToken alone gap.offset gap.rest
  -- The token starts where the blanks end, or at a mark, which is no word.
  have hstart : ∃ back, Passes offset rest (gap.mark?.getD gap.offset) back
      ∧ gap.mark?.getD gap.offset ≤ gap.offset
      ∧ ((gap.mark?.getD gap.offset = gap.offset ∧ back = gap.rest)
        ∨ ∃ c after, isIdentifierStart c = false ∧ back = c :: after) := by
    cases hm : gap.mark? with
    | none => exact ⟨_, hgap, Nat.le_refl _, .inl ⟨rfl, rfl⟩⟩
    | some mark =>
      obtain hnone | ⟨c, after, hc, hfront, hback⟩ := hmark mark hm
      · cases hnone
      · exact ⟨_, hfront, hback.le, .inr ⟨c, after, hc, rfl⟩⟩
  obtain ⟨back, hfront, hle, hback⟩ := hstart
  unfold Lexeme.next
  dsimp only
  rw [hg]
  refine ⟨⟨⟨back, h.trans hfront⟩, (h.trans hgap).trans htoken, Nat.le_trans hle htoken.le,
    fun symbol hsymbol _ => ?_, fun c after hc hpasses => .inl ?_⟩, hfront.le⟩
  · obtain ⟨hmem, htext, hstop⟩ := symbol_readToken hsymbol
    refine ⟨allSingle_symbols symbol hmem, ne_empty_of_mem_symbols hmem, gap.offset, hle, hstop, ?_⟩
    rw [← htext]
    exact h.trans hgap
  · have hsame := (h.trans hfront).unique hpasses
    obtain ⟨hoffset, rfl⟩ | ⟨d, more, hd, rfl⟩ := hback
    · dsimp only at hpasses ⊢
      rw [hoffset, hsame]
      exact (readToken_of_isIdentifierStart hc alone gap.offset after).1.symm
    · obtain ⟨rfl, -⟩ := List.cons.inj hsame
      rw [hc] at hd
      cases hd

namespace Lexeme.Stands

variable {text : List Char} {lexeme : Lexeme}

/-- A token after one that stands in the text stands in it. -/
theorem following (h : lexeme.Stands text) (alone : Bool) :
    (lexeme.following alone).Stands text ∧ lexeme.start ≤ (lexeme.following alone).start := by
  unfold Lexeme.following
  split
  · exact ⟨h, Nat.le_refl _⟩
  · obtain ⟨hstands, hle⟩ := stands_next alone false h.stop
    exact ⟨hstands, Nat.le_trans h.le hle⟩

/-- Another token stands in for this one. -/
theorem withToken (h : lexeme.Stands text) {token : Token} (htoken : token.StandsIn) :
    ({ lexeme with token } : Lexeme).Stands text where
  start := h.start
  stop := h.stop
  le := h.le
  symbol symbol hsymbol hne := by
    rcases htoken with rfl | rfl | rfl <;> cases hsymbol
    exact absurd rfl hne
  word _ _ _ _ := .inr htoken

/-- No word is written where a symbol is read. -/
theorem exists_of_symbol (h : lexeme.Stands text) {symbol : String}
    (hsymbol : lexeme.token = .symbol symbol) (hne : symbol ≠ ",") :
    ∃ c rest, isIdentifierStart c = false ∧ Passes 0 text lexeme.start (c :: rest) := by
  obtain ⟨rest, hrest⟩ := h.start
  have hlt := (h.symbol symbol hsymbol hne).lt
  cases rest with
  | nil =>
    -- The text would end before the symbol does.
    obtain ⟨front, htext, hstart⟩ := hrest
    obtain ⟨passed, hpassed, hstop⟩ := h.stop
    have hlength := congrArg byteLength (htext.symm.trans hpassed)
    simp only [List.append_nil, byteLength_append] at hlength
    omega
  | cons c rest =>
    refine ⟨c, rest, Bool.eq_false_iff.2 fun hc => ?_, hrest⟩
    rcases h.word c rest hc hrest with hread | hread
    · exact (readToken_of_isIdentifierStart hc false lexeme.start rest).2 symbol (by
        rw [hread, hsymbol])
    · rw [hsymbol] at hread
      rcases hread with heq | heq | heq <;> cases heq
      exact hne rfl

theorem splitAngle (h : lexeme.Stands text) : lexeme.splitAngle.Stands text := by
  unfold Lexeme.splitAngle
  split
  · next symbol hsymbol =>
    split
    · next hangle =>
      -- The sign is the first character of the symbol.
      obtain ⟨more, hmore⟩ := String.startsWith_string_iff.1 hangle
      have hmore : symbol.toList = '>' :: more := hmore.symm
      have hne : symbol ≠ "," := by
        rintro rfl
        cases hmore
      obtain ⟨-, hempty, offset, hle, hstop, hpasses⟩ := h.symbol symbol hsymbol hne
      have hlength := length_pos_of_ne_empty hempty
      have hends : EndsWith ">" lexeme.start (lexeme.stop - (symbol.length - 1)) text
          (symbol.toList.drop 1 ++ lexeme.rest) := by
        refine ⟨by decide, by decide, offset, hle, ?_, ?_⟩
        · show lexeme.stop - (symbol.length - 1) = offset + 1
          omega
        · show Passes 0 text offset ('>' :: (symbol.toList.drop 1 ++ lexeme.rest))
          rw [hmore] at hpasses ⊢
          exact hpasses
      exact EndsWith.stands hends (h.exists_of_symbol hsymbol hne) rfl
    · exact h
  · exact h

theorem start_splitAngle (lexeme : Lexeme) : lexeme.splitAngle.start = lexeme.start := by
  unfold Lexeme.splitAngle
  grind

theorem start_joinAngle (lexeme : Lexeme) : lexeme.joinAngle.start = lexeme.start := by
  unfold Lexeme.joinAngle
  grind

theorem joinAngle (h : lexeme.Stands text) : lexeme.joinAngle.Stands text := by
  unfold Lexeme.joinAngle
  split
  · next symbol hsymbol =>
    split
    · next hangle =>
      split
      · next joined rest hjoined =>
        have hsign : symbol.length = 1 ∧ symbol ≠ "," := by
          rcases Bool.or_eq_true_iff.1 hangle with hless | hgreater
          · rw [beq_iff_eq.1 hless]
            decide
          · rw [beq_iff_eq.1 hgreater]
            decide
        obtain ⟨hmem, htext⟩ := of_dropSymbol hjoined
        obtain ⟨-, -, offset, hle, hstop, hpasses⟩ := h.symbol symbol hsymbol hsign.2
        have hlength := length_pos_of_ne_empty (ne_empty_of_mem_symbols hmem)
        have hends : EndsWith joined lexeme.start (lexeme.stop + (joined.length - 1)) text
            rest := by
          refine ⟨allSingle_symbols joined hmem, ne_empty_of_mem_symbols hmem, offset, hle, ?_, ?_⟩
          · omega
          · rw [← htext]
            exact hpasses
        exact EndsWith.stands hends (h.exists_of_symbol hsymbol hsign.2) rfl
      · exact h
    · exact h
  · exact h

end Lexeme.Stands

/-- A token inside an element of markup stands in the text. -/
theorem Lexeme.stands_nextInMarkup {text rest : List Char} {offset : Nat}
    (h : Passes 0 text offset rest) : (Lexeme.nextInMarkup offset rest).Stands text
      ∧ (Lexeme.nextInMarkup offset rest).start = offset := by
  -- A symbol of which the text is known.
  have hsymbol : ∀ (symbol : String) (after : List Char), AllSingle symbol.toList →
      (∃ c more, symbol.toList = c :: more ∧ isIdentifierStart c = false) →
      rest = symbol.toList ++ after →
      (⟨.symbol symbol, offset, offset + symbol.length, false, after⟩ : Lexeme).Stands text := by
    rintro symbol after hsingle ⟨c, more, hmore, hc⟩ rfl
    have hne : symbol ≠ "" := by
      rintro rfl
      cases hmore
    refine EndsWith.stands ⟨hsingle, hne, offset, Nat.le_refl _, rfl, h⟩
      ⟨c, more ++ after, hc, ?_⟩ rfl
    rw [hmore] at h
    exact h
  refine ⟨?_, rfl⟩
  unfold Lexeme.nextInMarkup
  dsimp only
  split
  · next hempty =>
    split
    · refine ⟨⟨_, h⟩, h, Nat.le_refl _, nofun, fun c rest _ hc => ?_⟩
      cases h.unique hc
    · next after =>
      exact hsymbol closingBracket after (by decide) ⟨_, _, rfl, rfl⟩ rfl
    · next c after _ =>
      have hc : c = '{' ∨ c = '<' := by
        by_contra hne
        rw [not_or] at hne
        rw [List.takeWhile_cons_of_pos (by simp [hne])] at hempty
        cases hempty
      rcases hc with rfl | rfl
      · exact hsymbol openBrace after (by decide) ⟨_, _, rfl, rfl⟩ rfl
      · exact hsymbol "<" after (by decide) ⟨_, _, rfl, rfl⟩ rfl
  · have hcontent := Passes.drop (List.takeWhile_prefix (l := rest) fun c => c != '{' && c != '<')
      offset
    exact ⟨⟨_, h⟩, h.trans hcontent, hcontent.le, nofun, fun _ _ _ _ => .inr (.inr (.inl rfl))⟩

theorem passes_dropRegexBody (state : RegexState) (text : List Char) :
    ∀ found, dropRegexBody state text = some found → Passes 0 text found.1 found.2 := by
  have hcons : ∀ c text length rest, Passes 0 text length rest →
      Passes 0 (c :: text) (length + c.utf8Size) rest := by
    rintro c text length rest ⟨passed, rfl, rfl⟩
    exact ⟨c :: passed, rfl, by simp [Nat.add_comm]⟩
  fun_induction dropRegexBody state text <;> grind [Passes.refl, Option.map_eq_some_iff]

end Phrasebook.Script
