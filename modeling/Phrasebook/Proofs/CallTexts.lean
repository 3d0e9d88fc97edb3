import Phrasebook.Proofs.ScriptGrammar
import Phrasebook.Proofs.ScriptOffsets
import Phrasebook.Proofs.ScriptTokens
import Phrasebook.Script.Calls

/-!
# Texts of calls

The text of a call of a marker, as it stands in a script: the marker, a dot, the member's name and
literals in parentheses, with blanks and comments between these tokens. Such a text gives the same
tokens at every offset, whatever stands after it, and as a script of its own it is one call.

Results:
* `exists_skipGap`: blanks and comments are passed over.
* `IsLiteralText.exists_quoted`: strings and templates without substitutions are read.
* `IsCallText.exists_callsMember`: the tokens of the text of a call, wherever it stands.
* `CallAt.callsMember`: the token where such a text starts, whatever is read before it.
* `IsCallText.ofText?_eq`, `IsCallText.calls?_eq`: the text of a call is a script of one call.
* `isCallText_writtenCall`: a written call is the text of a call.
-/

namespace Phrasebook.Script

open Phrasebook.Text Grammar

/-! ## Blanks and comments -/

/-- What stands between two tokens: blanks, ends of lines and comments that end. -/
inductive IsGap : List Char → Prop
  | nil : IsGap []
  | blank {c : Char} {rest : List Char} (hc : isLineEnd c = true ∨ isSpace c = true)
      (more : IsGap rest) : IsGap (c :: rest)
  | lineComment {body rest : List Char} {c : Char} (hbody : ∀ d ∈ body, isLineEnd d = false)
      (hc : isLineEnd c = true) (more : IsGap rest) : IsGap ('/' :: '/' :: (body ++ c :: rest))
  | blockComment {body rest : List Char} (hbody : ¬['*', '/'] <:+: body) (more : IsGap rest) :
      IsGap ('/' :: '*' :: (body ++ '*' :: '/' :: rest))

theorem skipGap_lineComment {body : List Char} (hbody : ∀ d ∈ body, isLineEnd d = false) {c : Char}
    (hc : isLineEnd c = true) (alone : Bool) (offset : Nat) (newline : Bool) (mark? : Option Nat)
    (rest : List Char) :
    skipGap alone .lineComment offset newline mark? (body ++ c :: rest)
      = skipGap alone .between (offset + byteLength (body ++ [c])) true mark? rest := by
  induction body generalizing offset with
  | nil =>
    rw [List.nil_append, skipGap, if_pos hc]
    rfl
  | cons d body ih =>
    obtain ⟨hd, hbody⟩ := List.forall_mem_cons.1 hbody
    rw [List.cons_append, skipGap, if_neg (by simp [hd]), ih hbody, List.cons_append,
      byteLength_cons, Nat.add_assoc]

/-- A block comment ends at the first slash after a star. -/
theorem exists_skipGap_blockComment {body : List Char} (hbody : ¬['*', '/'] <:+: body)
    (newline : Bool) :
    ∃ after, ∀ alone offset mark? rest,
      skipGap alone .blockComment offset newline mark? (body ++ '*' :: '/' :: rest)
        = skipGap alone .between (offset + byteLength (body ++ ['*', '/'])) after mark? rest := by
  induction body generalizing newline with
  | nil =>
    refine ⟨newline, fun alone offset mark? rest => ?_⟩
    rw [List.nil_append, skipGap, if_pos ⟨rfl, rfl⟩, skipGap]
    rfl
  | cons c body ih =>
    obtain ⟨after, hafter⟩ := ih (fun h => hbody (h.trans (List.infix_cons (List.infix_refl _))))
      (newline || isLineEnd c)
    refine ⟨after, fun alone offset mark? rest => ?_⟩
    have hopen : ¬(c = '*' ∧ (body ++ '*' :: '/' :: rest).head? = some '/') := by
      rintro ⟨rfl, hhead⟩
      cases body with
      | nil => cases hhead
      | cons d body =>
        obtain rfl := Option.some.inj hhead
        exact hbody ⟨[], body, rfl⟩
    rw [List.cons_append, skipGap, if_neg hopen, hafter, List.cons_append, byteLength_cons,
      Nat.add_assoc]

/-- **Blanks and comments are passed over**, up to a token. -/
theorem exists_skipGap {gap : List Char} (h : IsGap gap) (newline : Bool) :
    ∃ after, ∀ alone offset mark? c rest, startsToken c = true →
      skipGap alone .between offset newline mark? (gap ++ c :: rest)
        = ⟨offset + byteLength gap, c :: rest, after, mark?⟩ := by
  have hslash : isLineEnd '/' = false ∧ isSpace '/' = false := ⟨rfl, rfl⟩
  have hsize : '/'.utf8Size = 1 ∧ '*'.utf8Size = 1 := ⟨rfl, rfl⟩
  induction h generalizing newline with
  | nil =>
    exact ⟨newline, fun alone offset mark? c rest hc =>
      skipGap_of_startsToken hc alone offset newline mark? rest⟩
  | @blank d gap hd more ih =>
    by_cases hend : isLineEnd d = true
    · obtain ⟨after, hafter⟩ := ih true
      refine ⟨after, fun alone offset mark? c rest hc => ?_⟩
      rw [List.cons_append, skipGap, if_pos hend, hafter _ _ _ _ _ hc, byteLength_cons,
        Nat.add_assoc]
    · obtain ⟨after, hafter⟩ := ih newline
      refine ⟨after, fun alone offset mark? c rest hc => ?_⟩
      rw [List.cons_append, skipGap, if_neg hend, if_pos (hd.resolve_left hend),
        hafter _ _ _ _ _ hc, byteLength_cons, Nat.add_assoc]
  | @lineComment body gap d hbody hd more ih =>
    obtain ⟨after, hafter⟩ := ih true
    refine ⟨after, fun alone offset mark? c rest hc => ?_⟩
    have hlength : offset + 1 + byteLength ('/' :: (body ++ [d])) + byteLength gap
        = offset + byteLength ('/' :: '/' :: (body ++ d :: gap)) := by
      simp only [byteLength_cons, byteLength_append, byteLength_nil, hsize]
      omega
    have hbody : ∀ e ∈ '/' :: body, isLineEnd e = false := List.forall_mem_cons.2 ⟨rfl, hbody⟩
    have hskip := skipGap_lineComment hbody hd alone (offset + 1) newline mark? (gap ++ c :: rest)
    simp only [List.cons_append, List.append_assoc] at hskip ⊢
    rw [skipGap, if_neg (by simp [hslash]), if_neg (by simp [hslash]), if_pos ⟨rfl, rfl⟩, hskip,
      hafter _ _ _ _ _ hc, hlength]
  | @blockComment body gap hbody more ih =>
    obtain ⟨middle, hmiddle⟩ := exists_skipGap_blockComment hbody newline
    obtain ⟨after, hafter⟩ := ih middle
    refine ⟨after, fun alone offset mark? c rest hc => ?_⟩
    have hlength : offset + 1 + 1 + byteLength (body ++ ['*', '/']) + byteLength gap
        = offset + byteLength ('/' :: '*' :: (body ++ '*' :: '/' :: gap)) := by
      simp only [byteLength_cons, byteLength_append, byteLength_nil, hsize]
      omega
    simp only [List.cons_append, List.append_assoc]
    rw [skipGap, if_neg (by simp [hslash]), if_neg (by simp [hslash]), if_neg (by simp),
      if_pos ⟨rfl, rfl⟩, skipGap, hsize.2, hmiddle, hafter _ _ _ _ _ hc, hlength]

/-- What holds of blanks, of slashes and of what follows a gap holds of where the gap begins. -/
theorem IsGap.exists_cons {gap : List Char} (h : IsGap gap) {p : Char → Prop}
    (hblank : ∀ d, isLineEnd d = true ∨ isSpace d = true → p d) (hslash : p '/') {c : Char}
    (hc : p c) (rest : List Char) : ∃ d tail, gap ++ c :: rest = d :: tail ∧ p d := by
  cases h with
  | nil => exact ⟨c, rest, rfl, hc⟩
  | blank hd _ => exact ⟨_, _, rfl, hblank _ hd⟩
  | lineComment _ _ _ => exact ⟨_, _, rfl, hslash⟩
  | blockComment _ _ => exact ⟨_, _, rfl, hslash⟩

/-- No blank stands in a word, is a digit or a dot. -/
theorem apart_of_blank {c : Char} (h : isLineEnd c = true ∨ isSpace c = true) :
    isIdentifierPart c = false ∧ c ≠ '\\' ∧ c.isDigit = false ∧ c ≠ '.' := by
  have hrange : ∀ more < 12, isIdentifierPart (Char.ofNat (0x2000 + more)) = false
      ∧ Char.ofNat (0x2000 + more) ≠ '\\' ∧ (Char.ofNat (0x2000 + more)).isDigit = false
      ∧ Char.ofNat (0x2000 + more) ≠ '.' := by
    decide +kernel
  by_cases hc : 0x2000 ≤ c.toNat ∧ c.toNat ≤ 0x200b
  · have hmore := hrange (c.toNat - 0x2000) (by omega)
    rwa [Nat.add_sub_cancel' hc.1, Char.ofNat_toNat] at hmore
  · have hout : ('\u2000' ≤ c && c ≤ '\u200b') = false := by
      rw [← Bool.not_eq_true, Bool.and_eq_true, decide_eq_true_eq, decide_eq_true_eq]
      exact hc
    simp only [isLineEnd, isSpace, hout, Bool.or_false, Bool.or_eq_true, beq_iff_eq, or_assoc] at h
    rcases h with rfl | rfl | rfl | rfl | rfl | rfl | rfl | rfl | rfl | rfl | rfl | rfl | rfl | rfl
      | rfl
    all_goals decide +kernel

/-! ## Tokens -/

/-- The token after a gap, wherever the gap begins. -/
theorem IsGap.exists_next {gap rest after : List Char} (h : IsGap gap) {c : Char}
    (hc : startsToken c = true) {offset stop : Nat} {token : Token}
    (hread : ∀ alone,
      readToken alone (offset + byteLength gap) (c :: rest) = (token, stop, after)) :
    ∃ newline, ∀ alone, Lexeme.next alone offset false (gap ++ c :: rest)
      = ⟨token, offset + byteLength gap, stop, newline, after⟩ := by
  obtain ⟨newline, hskip⟩ := exists_skipGap h false
  refine ⟨newline, fun alone => ?_⟩
  unfold Lexeme.next
  rw [hskip _ _ _ _ _ hc]
  dsimp only
  rw [hread]
  rfl

/-- The token after another one, past a gap. -/
theorem IsGap.exists_follows {gap rest after : List Char} (h : IsGap gap) (lexeme : Lexeme)
    (hdead : lexeme.token ≠ .deadEnd) {c : Char} (hc : startsToken c = true)
    (hrest : lexeme.rest = gap ++ c :: rest) {token : Token} {stop : Nat}
    (hread : ∀ alone,
      readToken alone (lexeme.stop + byteLength gap) (c :: rest) = (token, stop, after)) :
    ∃ newline, Follows lexeme ⟨token, lexeme.stop + byteLength gap, stop, newline, after⟩ := by
  obtain ⟨newline, hnext⟩ := h.exists_next hc hread
  exact ⟨newline, .of_next hdead fun alone => hrest ▸ hnext alone⟩

/-- The text of a literal with its quotes, and the tree that it is read as. A template has no
substitutions, and no escape that is malformed. -/
inductive IsLiteralText : Node → List Char → Prop
  | string {quote : Quote} {inside : List Char} {pieces : List Piece}
      (hinside : InString quote.char inside)
      (hpieces : decodeFrom false .plain inside = .ok pieces) :
      IsLiteralText
        (.string ((textOfCodes (pieces.filterMap Piece.code?)).map String.ofList) quote)
        (quote.char :: (inside ++ [quote.char]))
  | template {inside : List Char} {value : Option String} (hinside : InTemplate inside)
      (hvalue : templateValue inside = some value) :
      IsLiteralText (.template value []) ('`' :: (inside ++ ['`']))

namespace IsLiteralText

variable {node : Node} {piece : List Char}

/-- A string is read up to its closing quote. -/
theorem readToken_string {quote : Quote} {inside : List Char} {pieces : List Piece}
    (hinside : InString quote.char inside) (hpieces : decodeFrom false .plain inside = .ok pieces)
    (alone : Bool) (offset : Nat) (after : List Char) :
    readToken alone offset (quote.char :: (inside ++ quote.char :: after))
      = (.string ((textOfCodes (pieces.filterMap Piece.code?)).map String.ofList) quote,
          offset + byteLength (quote.char :: (inside ++ [quote.char])), after) := by
  have hsize : quote.char.utf8Size = 1 := by cases quote <;> rfl
  have hlength : offset + byteLength (quote.char :: (inside ++ [quote.char]))
      = offset + 1 + byteLength inside + 1 := by
    simp only [byteLength_cons, byteLength_append, byteLength_nil, hsize]
    omega
  have hstring : readString quote.char (offset + 1) (inside ++ quote.char :: after)
      = (.string ((textOfCodes (pieces.filterMap Piece.code?)).map String.ofList) quote,
        offset + 1 + byteLength inside + 1, after) := by
    unfold readString
    rw [splitString_of_inString hinside]
    dsimp only
    rw [hpieces]
    dsimp only
    rw [if_pos rfl]
    cases quote <;> rfl
  rw [hlength, ← hstring]
  cases quote <;> rfl

/-- **The text of a literal is read as that literal**, whatever stands before and after it. -/
theorem exists_quoted (h : IsLiteralText node piece) :
    ∃ c more, piece = c :: more ∧ startsToken c = true ∧ ∀ offset after, ∃ token stop rest,
      (∀ alone, readToken alone offset (c :: (more ++ after)) = (token, stop, rest))
        ∧ after.length ≤ rest.length
        ∧ ∀ newline next,
          (∀ alone, Lexeme.next alone (offset + byteLength piece) false after = next) →
          Quoted ⟨token, offset, stop, newline, rest⟩ node next := by
  cases h with
  | @string quote inside pieces hinside hpieces =>
    refine ⟨_, _, rfl, by cases quote <;> decide, fun offset after => ⟨_, _, after,
      fun alone => ?_, Nat.le_refl _, fun newline next hnext => .string rfl (.of_next nofun hnext)⟩⟩
    rw [List.append_assoc, List.singleton_append]
    exact readToken_string hinside hpieces alone offset after
  | @template inside value hinside hvalue =>
    have hquote : '`'.utf8Size = 1 := rfl
    refine ⟨_, _, rfl, by decide, fun offset after => ?_⟩
    have hsplit := splitTemplate_of_inTemplate hinside (offset + 1) after
    have hlength : offset + byteLength ('`' :: (inside ++ ['`']))
        = offset + 1 + byteLength inside + 1 := by
      simp only [byteLength_cons, byteLength_append, byteLength_nil, hquote]
      omega
    rw [List.append_assoc, List.singleton_append, hlength]
    refine ⟨_, _, _, fun alone => readToken_template hsplit alone, ?_,
      fun newline next hnext => .template rfl hsplit hvalue hnext⟩
    rw [List.length_append]
    exact Nat.le_trans (Nat.le_succ _) (Nat.le_add_left _ _)

/-- A literal holds no call. -/
theorem sites_eq_nil (h : IsLiteralText node piece) (marker : String) :
    node.sites marker = [] := by
  cases h <;> rfl

end IsLiteralText

/-! ## Arguments -/

/-- The text of the arguments of a call with its closing parenthesis: literals between commas, of
which one may stand after the last literal. -/
inductive IsArgumentText : List Node → List Char → Prop
  | nil {gap : List Char} (hgap : IsGap gap) : IsArgumentText [] (gap ++ [')'])
  | last {node : Node} {gap piece gap' : List Char} (hgap : IsGap gap)
      (hpiece : IsLiteralText node piece) (hgap' : IsGap gap') :
      IsArgumentText [node] (gap ++ (piece ++ (gap' ++ [')'])))
  | cons {node : Node} {rest : List Node} {gap piece gap' text : List Char} (hgap : IsGap gap)
      (hpiece : IsLiteralText node piece) (hgap' : IsGap gap') (more : IsArgumentText rest text) :
      IsArgumentText (node :: rest) (gap ++ (piece ++ (gap' ++ ',' :: text)))

/-- No argument holds a call. -/
theorem IsArgumentText.sitesOfAll_eq_nil {nodes : List Node} {text : List Char}
    (h : IsArgumentText nodes text) (marker : String) : Node.sitesOfAll marker nodes = [] := by
  induction h with
  | nil _ => rfl
  | last _ hpiece _ => rw [Node.sitesOfAll, hpiece.sites_eq_nil, Node.sitesOfAll, List.append_nil]
  | cons _ hpiece _ _ ih => rw [Node.sitesOfAll, hpiece.sites_eq_nil, ih, List.append_nil]

/-- There are no more arguments than characters. -/
theorem IsArgumentText.length_lt {nodes : List Node} {text : List Char}
    (h : IsArgumentText nodes text) : nodes.length < text.length := by
  induction h with
  | nil => simp
  | last _ hpiece _ =>
    obtain ⟨c, more, rfl, -⟩ := hpiece.exists_quoted
    simp only [List.length_append, List.length_cons, List.length_nil]
    omega
  | cons _ _ _ _ ih =>
    simp only [List.length_append, List.length_cons]
    omega

/-- **The tokens of the arguments of a call**, up to its closing parenthesis. -/
theorem IsArgumentText.exists_literals {nodes : List Node} {text after : List Char}
    (h : IsArgumentText nodes text) (opening : Lexeme) (hdead : opening.token ≠ .deadEnd)
    (hrest : opening.rest = text ++ after) :
    ∃ literal closing, Follows opening literal ∧ Literals literal nodes closing
      ∧ nodes.length < literal.rest.length + 2
      ∧ closing.stop = opening.stop + byteLength text ∧ closing.rest = after := by
  have hclose : startsToken ')' = true := by decide
  have hread : ∀ alone offset after,
      readToken alone offset (')' :: after) = (.symbol ")", offset + 1, after) :=
    fun alone _ _ => by cases alone <;> rfl
  have hone : ')'.utf8Size = 1 ∧ ','.utf8Size = 1 := ⟨rfl, rfl⟩
  induction h generalizing opening with
  | @nil gap hgap =>
    rw [List.append_assoc, List.singleton_append] at hrest
    obtain ⟨newline, hfollows⟩ := hgap.exists_follows opening hdead hclose hrest fun alone =>
      hread alone _ after
    exact ⟨_, _, hfollows, .nil rfl, by simp, by simp [hone, Nat.add_assoc], rfl⟩
  | @last node gap piece gap' hgap hpiece hgap' =>
    obtain ⟨c, more, rfl, hc, hquoted⟩ := hpiece.exists_quoted
    simp only [List.append_assoc, List.cons_append, List.nil_append] at hrest
    obtain ⟨token, stop, rest, hliteral, -, hquoted⟩ :=
      hquoted (opening.stop + byteLength gap) (gap' ++ ')' :: after)
    obtain ⟨newline, hfollows⟩ := hgap.exists_follows opening hdead hc hrest hliteral
    obtain ⟨newline', hclosing⟩ := hgap'.exists_next hclose fun alone => hread alone _ after
    refine ⟨_, _, hfollows, .last (hquoted newline _ hclosing) rfl, by simp, ?_, rfl⟩
    simp only [byteLength_append, byteLength_cons, byteLength_nil, hone]
    omega
  | @cons node nodes gap piece gap' text hgap hpiece hgap' more ih =>
    obtain ⟨c, tail, rfl, hc, hquoted⟩ := hpiece.exists_quoted
    simp only [List.append_assoc, List.cons_append] at hrest
    obtain ⟨token, stop, rest, hliteral, hlength, hquoted⟩ :=
      hquoted (opening.stop + byteLength gap) (gap' ++ ',' :: (text ++ after))
    obtain ⟨newline, hfollows⟩ := hgap.exists_follows opening hdead hc hrest hliteral
    obtain ⟨newline', hcomma⟩ := hgap'.exists_next (c := ',') (by decide) fun alone =>
      show readToken alone _ (',' :: (text ++ after)) = (.symbol ",", _ + 1, text ++ after) by
        cases alone <;> rfl
    obtain ⟨literal, closing, hnext, hliterals, -, hstop, hafter⟩ :=
      ih ⟨.symbol ",", _, _, newline', text ++ after⟩ nofun rfl
    refine ⟨_, closing, hfollows, .cons (hquoted newline _ hcomma) rfl hnext hliterals, ?_, ?_,
      hafter⟩
    · have hfewer := more.length_lt
      simp only [List.length_cons, List.length_append] at hlength ⊢
      omega
    · rw [hstop]
      simp only [byteLength_append, byteLength_cons, hone]
      omega

/-! ## Calls -/

/-- The text of a call of the marker's member `s`, and the trees of its arguments. The marker is a
word that a reference may use. -/
structure IsCallText (marker : String) (nodes : List Node) (text : List Char) : Prop where
  isMarker : Settings.isMarker marker = true
  isReference : (Token.word marker).isReference = true
  exists_parts : ∃ gap gap' gap'' arguments, IsGap gap ∧ IsGap gap' ∧ IsGap gap''
    ∧ IsArgumentText nodes arguments
    ∧ text = marker.toList ++ (gap ++ '.' :: (gap' ++ 's' :: (gap'' ++ '(' :: arguments)))

namespace IsCallText

variable {marker : String} {nodes : List Node} {text : List Char}

/-- The text begins with a character of the marker. -/
theorem exists_cons (h : IsCallText marker nodes text) :
    ∃ first more, text = first :: more ∧ Settings.startsMarker first = true := by
  obtain ⟨_, _, _, _, -, -, -, -, rfl⟩ := h.exists_parts
  obtain ⟨first, more, hchars, hfirst, -⟩ := Settings.exists_of_isMarker h.isMarker
  exact ⟨first, _, by rw [hchars, List.cons_append], hfirst⟩

/-- **The marker is read first**, whatever stands after the text. -/
theorem exists_readToken (h : IsCallText marker nodes text) :
    ∃ rest, text = marker.toList ++ rest ∧ ∀ alone offset after,
      readToken alone offset (text ++ after)
        = (.word marker, offset + byteLength marker.toList, rest ++ after) := by
  obtain ⟨gap, gap', gap'', arguments, hgap, -, -, -, htext⟩ := h.exists_parts
  obtain ⟨first, more, hchars, hfirst, hmore⟩ := Settings.exists_of_isMarker h.isMarker
  refine ⟨_, htext, fun alone offset after => ?_⟩
  have hword : ∀ c ∈ marker.toList, isIdentifierPart c = true :=
    forall_isIdentifierPart_of_isMarker h.isMarker
  obtain ⟨d, tail, htail, hd, hbackslash⟩ := hgap.exists_cons
    (p := fun d => isIdentifierPart d = false ∧ d ≠ '\\')
    (fun d hd => ⟨(apart_of_blank hd).1, (apart_of_blank hd).2.1⟩) (by decide) (c := '.')
    (by decide) (gap' ++ 's' :: (gap'' ++ '(' :: arguments))
  have hread : readWordFrom .plain false offset (marker.toList ++ d :: (tail ++ after)) = _ :=
    readWordFrom_append hword hd hbackslash false offset
  rw [htext, htail, List.append_assoc, List.cons_append]
  rw [hchars, List.cons_append] at hread ⊢
  unfold readToken
  dsimp only
  rw [if_pos (Or.inl (isIdentifierStart_of_startsMarker hfirst)), hread, ← hchars]
  dsimp only
  rw [String.ofList_toList]
  rfl

/-- **The tokens of the text of a call**, from its marker to its closing parenthesis. -/
theorem exists_callsMember (h : IsCallText marker nodes text) {rest after : List Char}
    (htext : text = marker.toList ++ rest) (first : Lexeme) (htoken : first.token = .word marker)
    (hrest : first.rest = rest ++ after) :
    ∃ closing, CallsMember marker "s" nodes first closing
      ∧ closing.stop = first.stop + byteLength rest ∧ closing.rest = after := by
  obtain ⟨gap, gap', gap'', arguments, hgap, hgap', hgap'', harguments, hparts⟩ := h.exists_parts
  obtain rfl := List.append_cancel_left (htext.symm.trans hparts)
  simp only [List.append_assoc, List.cons_append] at hrest
  have hone : '.'.utf8Size = 1 ∧ 's'.utf8Size = 1 ∧ '('.utf8Size = 1 := ⟨rfl, rfl, rfl⟩
  -- The dot, the member's name and the opening parenthesis.
  obtain ⟨d, tail, htail, hdigit, hdot⟩ := hgap'.exists_cons
    (p := fun d => d.isDigit = false ∧ d ≠ '.') (fun d hd => (apart_of_blank hd).2.2)
    (by decide) (c := 's') (by decide) (gap'' ++ '(' :: (arguments ++ after))
  obtain ⟨newline, hdotNext⟩ := hgap.exists_follows first (by simp [htoken]) (c := '.')
    (by decide) hrest fun alone => by rw [htail]; exact readToken_dot hdigit hdot alone _ tail
  obtain ⟨e, tail', htail', he, hbackslash⟩ := hgap''.exists_cons
    (p := fun d => isIdentifierPart d = false ∧ d ≠ '\\')
    (fun d hd => ⟨(apart_of_blank hd).1, (apart_of_blank hd).2.1⟩) (by decide) (c := '(')
    (by decide) (arguments ++ after)
  obtain ⟨newline', hname⟩ := hgap'.exists_follows ⟨.symbol ".",
    first.stop + byteLength gap, _, newline, d :: tail⟩ nofun (c := 's') (by decide) htail.symm
    fun alone => by rw [htail']; exact readToken_member he hbackslash alone _ tail'
  obtain ⟨newline'', hopening⟩ := hgap''.exists_follows ⟨.word "s", _, _, newline',
    e :: tail'⟩ nofun (c := '(') (by decide) htail'.symm fun alone => by cases alone <;> rfl
  obtain ⟨literal, closing, hliteral, hliterals, hfuel, hstop, hafter⟩ :=
    harguments.exists_literals ⟨.symbol "(", _, _, newline'', arguments ++ after⟩ nofun rfl
  have hnames : NamesMember marker "s" first ⟨.symbol "(", _, _, newline'', arguments ++ after⟩ :=
    ⟨htoken, h.isReference, _, _, hdotNext, rfl, hname, rfl, hopening⟩
  refine ⟨closing, ⟨_, literal, hnames, rfl, hliteral, hliterals, hfuel⟩, ?_, hafter⟩
  rw [hstop]
  simp only [byteLength_append, byteLength_cons, hone]
  have hlength : "(".length = 1 := rfl
  omega

/-- No line for an interpreter starts the text of a call. -/
theorem dropInterpreter_eq (h : IsCallText marker nodes text) :
    dropInterpreter text = (0, text) := by
  obtain ⟨first, more, rfl, hfirst⟩ := h.exists_cons
  unfold dropInterpreter
  split
  · next heq =>
    obtain ⟨rfl, -⟩ := List.cons.inj heq
    cases hfirst
  · rfl

/-- Nor does a byte order mark. -/
theorem dropMark_eq (h : IsCallText marker nodes text) : dropMark text = text := by
  obtain ⟨first, more, rfl, hfirst⟩ := h.exists_cons
  unfold dropMark
  split
  · next heq =>
    obtain ⟨rfl, -⟩ := List.cons.inj heq
    cases hfirst
  · rfl

/-- **The text of a call is a script of one call**, which spans all of it. -/
theorem ofText?_eq (h : IsCallText marker nodes text) (path : String) :
    Node.ofText? path text = some (.group [.call 0 (byteLength text)
      (.member (.name marker) (.name "s")) nodes []]) := by
  obtain ⟨first, more, hcons, hfirst⟩ := h.exists_cons
  obtain ⟨rest, htext, hread⟩ := h.exists_readToken
  have hword := hread false 0 []
  rw [List.append_nil, List.append_nil, hcons] at hword
  have hnext := Lexeme.next_of_readToken (startsToken_of_startsMarker hfirst) hword true
  rw [← hcons] at hnext
  obtain ⟨closing, hcall, hstop, hrest⟩ := h.exists_callsMember htext
    ⟨.word marker, 0, 0 + byteLength marker.toList, true, rest⟩ rfl (List.append_nil rest).symm
  have hstop : closing.stop = byteLength text := by
    rw [hstop, htext, byteLength_append, Nat.zero_add]
  have hfinish : Follows closing ⟨.finish, closing.stop, closing.stop, false, []⟩ := by
    obtain ⟨_, _, -, -, -, hliterals, -⟩ := hcall.exists_parts
    exact .of_next (by simp [hliterals.closing_eq]) fun alone => by rw [hrest, Lexeme.next_nil]
  have hbound : 9 ≤ depthBound text.length := by
    unfold depthBound
    omega
  obtain ⟨moved, hrun⟩ := reads_program_of_callsMember hbound hcall hfinish rfl
    (Context.ofPath path) none
  unfold Node.ofText?
  rw [h.dropInterpreter_eq]
  dsimp only
  rw [hnext, hrun, memberCall, hstop]

/-- **The text of a call holds that call**, and no other one. -/
theorem calls?_eq (h : IsCallText marker nodes text) (path : String) :
    calls? marker ⟨path, String.ofList text⟩ = some [Node.CallSite.call path text
      ⟨0, byteLength text, [marker, "s"], nodes.map Node.argument⟩] := by
  obtain ⟨_, _, _, _, -, -, -, harguments, -⟩ := h.exists_parts
  unfold calls?
  dsimp only
  rw [String.toList_ofList, h.dropMark_eq, h.ofText?_eq, Option.map_some]
  simp [Node.group, Node.sites, Node.sitesOfAll, Node.site?, Node.calleePath?,
    harguments.sitesOfAll_eq_nil]

end IsCallText

/-- The text of a call stands in a script, from one offset to another. -/
def CallAt (text : List Char) (start : Nat) (marker : String) (nodes : List Node) (stop : Nat) :
    Prop :=
  ∃ piece after, Passes 0 text start (piece ++ after) ∧ IsCallText marker nodes piece
    ∧ stop = start + byteLength piece

/-- **The token where the text of a call starts** is its marker, with the tokens of the call after
it, or stands in for it. -/
theorem CallAt.callsMember {text : List Char} {marker : String} {nodes : List Node} {stop : Nat}
    {first : Lexeme} (h : CallAt text first.start marker nodes stop) (hstands : first.Stands text) :
    (∃ closing, CallsMember marker "s" nodes first closing ∧ closing.stop = stop)
      ∨ first.token.StandsIn := by
  obtain ⟨piece, after, hpasses, hcall, rfl⟩ := h
  obtain ⟨c, more, rfl, hc⟩ := hcall.exists_cons
  obtain ⟨rest, htext, hread⟩ := hcall.exists_readToken
  refine (hstands.word c (more ++ after) (isIdentifierStart_of_startsMarker hc) hpasses).imp_left
    fun hword => ?_
  rw [← List.cons_append, hread] at hword
  obtain ⟨htoken, hstop, hrest⟩ := Prod.mk.inj hword |>.imp_right Prod.mk.inj
  obtain ⟨closing, hmember, hclosing, -⟩ :=
    hcall.exists_callsMember htext first htoken.symm hrest.symm
  refine ⟨closing, hmember, ?_⟩
  rw [hclosing, ← hstop, htext, byteLength_append, Nat.add_assoc]

/-! ## Written calls -/

/-- A quoted text is the text of a string with that text as its value. -/
theorem isLiteralText_quoteChars (text : String) (quote : Quote) :
    IsLiteralText (.string (some text) quote) (Literal.quoteChars text.toList quote) := by
  obtain ⟨pieces, hpieces, hcodes⟩ := decodeFrom_flatMap_escape quote text.toList
  have hinside := inString_of_inside (Marker.Text.inside_flatMap_escape quote text.toList)
  have hstring := IsLiteralText.string hinside hpieces
  rwa [hcodes, textOfCodes_map_toNat, Option.map_some, String.ofList_toList] at hstring

/-- The trees of the arguments of a written call. -/
def writtenNodes (phrase : String) (quote : Quote) (ns? : Option (String × Quote)) : List Node :=
  .string (some phrase) quote
    :: (ns?.map fun (ns, nsQuote) => Node.string (some ns) nsQuote).toList

theorem map_argument_writtenNodes (phrase : String) (quote : Quote)
    (ns? : Option (String × Quote)) :
    (writtenNodes phrase quote ns?).map Node.argument = writtenArguments phrase quote ns? := by
  cases ns? <;> rfl

/-- **A written call is the text of a call**, if the marker is a word that a reference may use. -/
theorem isCallText_writtenCall {marker : String} (hmarker : Settings.isMarker marker = true)
    (hreference : (Token.word marker).isReference = true) (phrase : String) (quote : Quote)
    (ns? : Option (String × Quote)) :
    IsCallText marker (writtenNodes phrase quote ns?)
      (writtenCall marker phrase quote ns?).toList := by
  have hphrase := isLiteralText_quoteChars phrase quote
  refine ⟨hmarker, hreference, [], [], [], _, .nil, .nil, .nil, ?_,
    toList_writtenCall marker phrase quote ns?⟩
  cases ns? with
  | none => exact .last .nil hphrase .nil
  | some ns =>
    have hns : IsArgumentText [.string (some ns.1) ns.2]
        ([' '] ++ (Literal.quoteChars ns.1.toList ns.2 ++ ([] ++ [')']))) :=
      .last (.blank (.inr rfl) .nil) (isLiteralText_quoteChars ns.1 ns.2) .nil
    exact .cons .nil hphrase .nil hns

end Phrasebook.Script
