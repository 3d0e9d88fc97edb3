import Phrasebook.Marker.Text
import Phrasebook.Settings.Validity

/-!
# What marker texts are

A marker text is a head (the marker, `.`, `s` and `(`), a literal, possibly a comma and a second
literal, and a closing (a comma or none, and `)`), with white space between these parts. A literal
is an inside between two equal quotes. What is read as a marker text does not depend on what stands
after it.

Results:
* `readHere?_eq_some_iff`: exactly the marker texts are read, each up to its end.
* `exists_scans`: every text is cut into marker texts and single characters that start none, from
  left to right.
* `findFrom_textOf`: the marker texts of that cut are the ones that are found.
-/

namespace Phrasebook

/-- The characters of a marker. -/
theorem Settings.exists_of_isMarker {marker : String} (h : Settings.isMarker marker = true) :
    ∃ first more, marker.toList = first :: more ∧ Settings.startsMarker first = true
      ∧ ∀ c ∈ more, Settings.startsMarker c = true ∨ c.isDigit = true := by
  unfold Settings.isMarker at h
  cases hchars : marker.toList with
  | nil =>
    rw [hchars] at h
    cases h
  | cons first more =>
    rw [hchars] at h
    simp only [Bool.and_eq_true, List.all_eq_true, Bool.or_eq_true] at h
    exact ⟨first, more, rfl, h.1, h.2⟩

/-- A character that belongs to no name does not stand in a marker. -/
theorem Settings.notMem_of_isMarker {marker : String} {c : Char}
    (h : Settings.isMarker marker = true) (hstarts : Settings.startsMarker c = false)
    (hdigit : c.isDigit = false) : c ∉ marker.toList := by
  obtain ⟨first, more, hchars, hfirst, hmore⟩ := Settings.exists_of_isMarker h
  rw [hchars]
  intro hmem
  rcases List.mem_cons.1 hmem with rfl | hmem
  · rw [hfirst] at hstarts
    cases hstarts
  · rcases hmore c hmem with hother | hother
    · rw [hother] at hstarts
      cases hstarts
    · rw [hother] at hdigit
      cases hdigit

namespace Marker.Text

open Phrasebook.Text

/-! ## Parts -/

theorem dropPart?_eq_some_iff {part text rest : List Char} :
    dropPart? part text = some rest ↔ text = part ++ rest := by
  induction part generalizing text with
  | nil =>
    rw [dropPart?, Option.some.injEq, List.nil_append]
  | cons c part ih =>
    cases text with
    | nil => simp [dropPart?]
    | cons d text =>
      rw [dropPart?, Option.ite_none_right_eq_some, ih, List.cons_append, List.cons.injEq]
      exact and_congr_left fun _ => eq_comm

/-- White space only. -/
def Blank (gap : List Char) : Prop := ∀ c ∈ gap, isBlank c = true

theorem Blank.nil : Blank [] := nofun

/-- White space ends at the first other character. -/
theorem dropWhile_isBlank_eq_cons_iff {text rest : List Char} {c : Char} :
    text.dropWhile isBlank = c :: rest
      ↔ isBlank c = false ∧ ∃ gap, Blank gap ∧ text = gap ++ c :: rest := by
  constructor
  · intro h
    refine ⟨?_, text.takeWhile isBlank, List.all_eq_true.1 List.all_takeWhile, ?_⟩
    · have hhead := List.head?_dropWhile_not isBlank text
      rw [h] at hhead
      simpa using hhead
    · rw [← h, List.takeWhile_append_dropWhile]
  · rintro ⟨hc, gap, hgap, rfl⟩
    rw [List.dropWhile_append_of_pos hgap, List.dropWhile_cons_of_neg (by simp [hc])]

/-- Another character than the mark comes first. -/
theorem dropMark?_eq_none {mark c : Char} {gap rest : List Char} (hgap : Blank gap)
    (hc : isBlank c = false) (hne : c ≠ mark) : dropMark? mark (gap ++ c :: rest) = none := by
  unfold dropMark?
  rw [dropWhile_isBlank_eq_cons_iff.2 ⟨hc, gap, hgap, rfl⟩]
  exact if_neg hne

theorem dropMark?_eq_some_iff {mark : Char} (hmark : isBlank mark = false)
    {text rest : List Char} :
    dropMark? mark text = some rest ↔ ∃ gap, Blank gap ∧ text = gap ++ mark :: rest := by
  unfold dropMark?
  cases htext : text.dropWhile isBlank with
  | nil =>
    refine ⟨nofun, ?_⟩
    rintro ⟨gap, hgap, rfl⟩
    rw [dropWhile_isBlank_eq_cons_iff.2 ⟨hmark, gap, hgap, rfl⟩] at htext
    cases htext
  | cons c after =>
    obtain ⟨-, gap, hgap, rfl⟩ := dropWhile_isBlank_eq_cons_iff.1 htext
    constructor
    · intro h
      obtain ⟨rfl, hrest⟩ := (Option.ite_none_right_eq_some ..).1 h
      exact ⟨gap, hgap, by rw [Option.some.inj hrest]⟩
    · rintro ⟨gap', hgap', hsame⟩
      rw [hsame, dropWhile_isBlank_eq_cons_iff.2 ⟨hmark, gap', hgap', rfl⟩] at htext
      obtain ⟨rfl, rfl⟩ := List.cons.inj htext
      exact if_pos rfl

/-! ## Literals -/

/-- What stands between two quotes: characters other than the quote, a backslash and the ends of
lines, and backslashes with a character after each that is no line feed. -/
inductive Inside (quote : Char) : List Char → Prop
  | nil : Inside quote []
  | plain {c : Char} {rest : List Char} (hquote : c ≠ quote) (hbackslash : c ≠ '\\')
      (hline : ¬(c = '\n' ∨ c = '\r')) (more : Inside quote rest) : Inside quote (c :: rest)
  | escape {c : Char} {rest : List Char} (hline : c ≠ '\n') (more : Inside quote rest) :
      Inside quote ('\\' :: c :: rest)

theorem splitLiteral?_cons_quote (quote : Char) (rest : List Char) :
    splitLiteral? quote (quote :: rest) = some ([], rest) := by
  cases rest <;> simp [splitLiteral?]

theorem splitLiteral?_append {quote : Char} (hquote : quote ≠ '\\') {inside : List Char}
    (h : Inside quote inside) (after : List Char) :
    splitLiteral? quote (inside ++ quote :: after) = some (inside, after) := by
  induction h with
  | nil => exact splitLiteral?_cons_quote quote after
  | @plain c rest hc hbackslash hline _ ih =>
    obtain ⟨d, tail, htail⟩ := List.exists_cons_of_ne_nil
      (List.append_ne_nil_of_right_ne_nil rest (List.cons_ne_nil quote after))
    rw [List.cons_append, htail, splitLiteral?, if_neg hc, if_neg hbackslash, if_neg hline, ← htail,
      ih, Option.map_some]
  | @escape c rest hline _ ih =>
    rw [List.cons_append, List.cons_append, splitLiteral?, if_neg hquote.symm, if_pos rfl,
      if_neg hline, ih, Option.map_some]

/-- **A literal is split at its closing quote.** -/
theorem splitLiteral?_eq_some_iff {quote : Char} (hquote : quote ≠ '\\')
    {text inside after : List Char} :
    splitLiteral? quote text = some (inside, after)
      ↔ Inside quote inside ∧ text = inside ++ quote :: after := by
  refine ⟨fun h => ?_, fun ⟨hinside, htext⟩ => htext ▸ splitLiteral?_append hquote hinside after⟩
  induction text using splitLiteral?.induct quote generalizing inside with
  | case1 => cases h
  | case2 =>
    rw [splitLiteral?, if_pos rfl] at h
    cases h
    exact ⟨.nil, rfl⟩
  | case3 c hc =>
    rw [splitLiteral?, if_neg hc] at h
    cases h
  | case4 d rest =>
    rw [splitLiteral?, if_pos rfl] at h
    cases h
    exact ⟨.nil, rfl⟩
  | case5 rest hc =>
    rw [splitLiteral?, if_neg hc, if_pos rfl, if_pos rfl] at h
    cases h
  | case6 d rest hline hc ih =>
    rw [splitLiteral?, if_neg hc, if_pos rfl, if_neg hline] at h
    obtain ⟨⟨found, rest'⟩, hfound, heq⟩ := Option.map_eq_some_iff.1 h
    cases heq
    obtain ⟨hinside, rfl⟩ := ih hfound
    exact ⟨.escape hline hinside, rfl⟩
  | case7 c d rest hc hbackslash hline =>
    rw [splitLiteral?, if_neg hc, if_neg hbackslash, if_pos hline] at h
    cases h
  | case8 c d rest hc hbackslash hline ih =>
    rw [splitLiteral?, if_neg hc, if_neg hbackslash, if_neg hline] at h
    obtain ⟨⟨found, rest'⟩, hfound, heq⟩ := Option.map_eq_some_iff.1 h
    cases heq
    obtain ⟨hinside, htext⟩ := ih hfound
    exact ⟨.plain hc hbackslash hline hinside, by rw [htext]; rfl⟩

/-- A literal after white space, with its argument. -/
inductive IsLiteral : Argument → List Char → Prop
  | intro {quote : Quote} {gap inside : List Char} (hgap : Blank gap)
      (hinside : Inside quote.char inside) :
      IsLiteral (literalArgument quote inside) (gap ++ quote.char :: (inside ++ [quote.char]))

theorem readLiteral?_eq_some_iff {text rest : List Char} {argument : Argument} :
    readLiteral? text = some (argument, rest)
      ↔ ∃ piece, IsLiteral argument piece ∧ text = piece ++ rest := by
  have hread : ∀ (quote : Quote) (after : List Char),
      ((splitLiteral? quote.char after).map fun split =>
          (literalArgument quote split.1, split.2)) = some (argument, rest)
        ↔ ∃ inside, Inside quote.char inside ∧ argument = literalArgument quote inside
          ∧ after = inside ++ quote.char :: rest := by
    intro quote after
    have hquote : quote.char ≠ '\\' := by cases quote <;> decide
    rw [Option.map_eq_some_iff]
    constructor
    · rintro ⟨⟨inside, rest'⟩, hsplit, heq⟩
      cases heq
      obtain ⟨hinside, hafter⟩ := (splitLiteral?_eq_some_iff hquote).1 hsplit
      exact ⟨inside, hinside, rfl, hafter⟩
    · rintro ⟨inside, hinside, rfl, hafter⟩
      exact ⟨(inside, rest), (splitLiteral?_eq_some_iff hquote).2 ⟨hinside, hafter⟩, rfl⟩
  unfold readLiteral?
  constructor
  · intro h
    split at h
    · next after htext =>
      obtain ⟨-, gap, hgap, rfl⟩ := dropWhile_isBlank_eq_cons_iff.1 htext
      obtain ⟨inside, hinside, rfl, rfl⟩ := (hread .single after).1 h
      exact ⟨_, .intro hgap hinside, by simp [Quote.char]⟩
    · next after htext =>
      obtain ⟨-, gap, hgap, rfl⟩ := dropWhile_isBlank_eq_cons_iff.1 htext
      obtain ⟨inside, hinside, rfl, rfl⟩ := (hread .double after).1 h
      exact ⟨_, .intro hgap hinside, by simp [Quote.char]⟩
    · cases h
  · rintro ⟨piece, hpiece, rfl⟩
    cases hpiece with
    | @intro quote gap inside hgap hinside =>
      have hfound := (hread quote (inside ++ quote.char :: rest)).2 ⟨inside, hinside, rfl, rfl⟩
      have hblank : isBlank quote.char = false := by cases quote <;> decide
      rw [dropWhile_isBlank_eq_cons_iff.2 ⟨hblank, gap, hgap, by
        rw [List.append_assoc, List.cons_append, List.append_assoc, List.singleton_append]⟩]
      cases quote <;> exact hfound

/-- The second literal of a marker text, from its comma on. -/
inductive IsSecond : Argument → List Char → Prop
  | intro {argument : Argument} {gap literal : List Char} (hgap : Blank gap)
      (hliteral : IsLiteral argument literal) : IsSecond argument (gap ++ ',' :: literal)

theorem readSecond?_eq_some_iff {text rest : List Char} {argument : Argument} :
    readSecond? text = some (argument, rest)
      ↔ ∃ piece, IsSecond argument piece ∧ text = piece ++ rest := by
  unfold readSecond?
  rw [Option.bind_eq_some_iff]
  simp only [dropMark?_eq_some_iff (show isBlank ',' = false by decide), readLiteral?_eq_some_iff]
  constructor
  · rintro ⟨after, ⟨gap, hgap, rfl⟩, literal, hliteral, rfl⟩
    exact ⟨_, .intro hgap hliteral, by simp⟩
  · rintro ⟨_, ⟨hgap, hliteral⟩, rfl⟩
    exact ⟨_, ⟨_, hgap, by simp⟩, _, hliteral, rfl⟩

/-- The end of a marker text, from the last literal on. -/
inductive IsClosing : List Char → Prop
  | plain {gap : List Char} (hgap : Blank gap) : IsClosing (gap ++ [')'])
  | comma {gap gap' : List Char} (hgap : Blank gap) (hgap' : Blank gap') :
      IsClosing (gap ++ ',' :: (gap' ++ [')']))

theorem dropClosing?_eq_some_iff {text rest : List Char} :
    dropClosing? text = some rest ↔ ∃ piece, IsClosing piece ∧ text = piece ++ rest := by
  have hparenthesis : isBlank ')' = false := by decide
  have hcomma : isBlank ',' = false := by decide
  unfold dropClosing?
  constructor
  · intro h
    split at h
    · next after hafter =>
      obtain ⟨gap, hgap, rfl⟩ := (dropMark?_eq_some_iff hcomma).1 hafter
      obtain ⟨gap', hgap', rfl⟩ := (dropMark?_eq_some_iff hparenthesis).1 h
      exact ⟨_, .comma hgap hgap', by simp⟩
    · obtain ⟨gap, hgap, rfl⟩ := (dropMark?_eq_some_iff hparenthesis).1 h
      exact ⟨_, .plain hgap, by simp⟩
  · rintro ⟨_, ⟨hgap⟩ | ⟨hgap, hgap'⟩, rfl⟩
    · rw [List.append_assoc, List.singleton_append,
        dropMark?_eq_none hgap hparenthesis (by decide)]
      exact (dropMark?_eq_some_iff hparenthesis).2 ⟨_, hgap, rfl⟩
    · rw [(dropMark?_eq_some_iff hcomma).2 ⟨_, hgap, by
        rw [List.append_assoc, List.cons_append]⟩]
      exact (dropMark?_eq_some_iff hparenthesis).2 ⟨_, hgap', by simp⟩

/-! ## Marker texts -/

/-- The start of a marker text, up to its parenthesis. -/
inductive IsHead (marker : List Char) : List Char → Prop
  | intro {gap gap' gap'' : List Char} (hgap : Blank gap) (hgap' : Blank gap')
      (hgap'' : Blank gap'') :
      IsHead marker (marker ++ (gap ++ '.' :: (gap' ++ 's' :: (gap'' ++ ['(']))))

/-- The arguments of a marker text, from its first literal to its end. -/
inductive IsArguments : List Argument → List Char → Prop
  | one {phrase : Argument} {literal closing : List Char} (hliteral : IsLiteral phrase literal)
      (hclosing : IsClosing closing) : IsArguments [phrase] (literal ++ closing)
  | two {phrase ns : Argument} {literal second closing : List Char}
      (hliteral : IsLiteral phrase literal) (hsecond : IsSecond ns second)
      (hclosing : IsClosing closing) : IsArguments [phrase, ns] (literal ++ (second ++ closing))

/-- A marker text with its arguments. -/
inductive IsMarkerText (marker : List Char) : List Argument → List Char → Prop
  | intro {arguments : List Argument} {head piece : List Char} (hhead : IsHead marker head)
      (harguments : IsArguments arguments piece) : IsMarkerText marker arguments (head ++ piece)

/-- No second literal stands where a closing does. -/
theorem readSecond?_eq_none {closing : List Char} (h : IsClosing closing) (rest : List Char) :
    readSecond? (closing ++ rest) = none := by
  unfold readSecond?
  cases h with
  | plain hgap =>
    rw [List.append_assoc, List.singleton_append, dropMark?_eq_none hgap (by decide) (by decide)]
    rfl
  | comma hgap hgap' =>
    rw [(dropMark?_eq_some_iff (by decide)).2 ⟨_, hgap, by
      rw [List.append_assoc, List.cons_append]⟩, Option.bind_some, List.append_assoc,
      List.singleton_append]
    unfold readLiteral?
    rw [dropWhile_isBlank_eq_cons_iff.2 ⟨by decide, _, hgap', rfl⟩]
    rfl

/-- What follows the head of a marker text, and the rest. -/
def readArguments? (text : List Char) : Option (List Argument × List Char) :=
  (readLiteral? text).bind fun (phrase, text) =>
    match readSecond? text with
    | some (ns, text) => (dropClosing? text).map fun rest => ([phrase, ns], rest)
    | none => (dropClosing? text).map fun rest => ([phrase], rest)

theorem readArguments?_eq_some_iff {text rest : List Char} {arguments : List Argument} :
    readArguments? text = some (arguments, rest)
      ↔ ∃ piece, IsArguments arguments piece ∧ text = piece ++ rest := by
  unfold readArguments?
  constructor
  · intro h
    obtain ⟨⟨phrase, after⟩, hphrase, hread⟩ := Option.bind_eq_some_iff.1 h
    obtain ⟨literal, hliteral, rfl⟩ := readLiteral?_eq_some_iff.1 hphrase
    dsimp only at hread
    split at hread
    · next ns after' hns =>
      obtain ⟨second, hsecond, rfl⟩ := readSecond?_eq_some_iff.1 hns
      obtain ⟨_, hend, heq⟩ := Option.map_eq_some_iff.1 hread
      cases heq
      obtain ⟨closing, hclosing, rfl⟩ := dropClosing?_eq_some_iff.1 hend
      exact ⟨_, .two hliteral hsecond hclosing, by simp only [List.append_assoc]⟩
    · obtain ⟨_, hend, heq⟩ := Option.map_eq_some_iff.1 hread
      cases heq
      obtain ⟨closing, hclosing, rfl⟩ := dropClosing?_eq_some_iff.1 hend
      exact ⟨_, .one hliteral hclosing, by simp only [List.append_assoc]⟩
  · rintro ⟨piece, hpiece, rfl⟩
    cases hpiece with
    | one hliteral hclosing =>
      rw [List.append_assoc, readLiteral?_eq_some_iff.2 ⟨_, hliteral, rfl⟩, Option.bind_some]
      dsimp only
      rw [readSecond?_eq_none hclosing, dropClosing?_eq_some_iff.2 ⟨_, hclosing, rfl⟩]
      rfl
    | two hliteral hsecond hclosing =>
      rw [List.append_assoc, List.append_assoc, readLiteral?_eq_some_iff.2 ⟨_, hliteral, rfl⟩,
        Option.bind_some]
      dsimp only
      rw [readSecond?_eq_some_iff.2 ⟨_, hsecond, rfl⟩]
      dsimp only
      rw [dropClosing?_eq_some_iff.2 ⟨_, hclosing, rfl⟩]
      rfl

theorem readHere?_eq_some {marker text : List Char} {result : List Argument × List Char} :
    readHere? marker text = some result
      ↔ ∃ head after, IsHead marker head ∧ text = head ++ after
        ∧ readArguments? after = some result := by
  have hread : readHere? marker text
      = (dropPart? marker text).bind fun text => (dropMark? '.' text).bind fun text =>
        (dropMark? 's' text).bind fun text => (dropMark? '(' text).bind readArguments? := by
    unfold readHere? readArguments?
    simp only [Option.map_eq_bind]
    rfl
  rw [hread]
  simp only [Option.bind_eq_some_iff, dropPart?_eq_some_iff,
    dropMark?_eq_some_iff (show isBlank '.' = false by decide),
    dropMark?_eq_some_iff (show isBlank 's' = false by decide),
    dropMark?_eq_some_iff (show isBlank '(' = false by decide)]
  constructor
  · rintro ⟨_, rfl, _, ⟨gap, hgap, rfl⟩, _, ⟨gap', hgap', rfl⟩, after, ⟨gap'', hgap'', rfl⟩, hafter⟩
    exact ⟨_, after, .intro hgap hgap' hgap'', by simp, hafter⟩
  · rintro ⟨_, after, ⟨hgap, hgap', hgap''⟩, rfl, hafter⟩
    exact ⟨_, by simp only [List.append_assoc, List.cons_append, List.nil_append], _,
      ⟨_, hgap, rfl⟩, _, ⟨_, hgap', rfl⟩, after, ⟨_, hgap'', rfl⟩, hafter⟩

/-- **Exactly the marker texts are read**, whatever stands after them. -/
theorem readHere?_eq_some_iff {marker text rest : List Char} {arguments : List Argument} :
    readHere? marker text = some (arguments, rest)
      ↔ ∃ piece, IsMarkerText marker arguments piece ∧ text = piece ++ rest := by
  rw [readHere?_eq_some]
  simp only [readArguments?_eq_some_iff]
  constructor
  · rintro ⟨head, _, hhead, rfl, piece, hpiece, rfl⟩
    exact ⟨_, .intro hhead hpiece, (List.append_assoc ..).symm⟩
  · rintro ⟨_, ⟨hhead, harguments⟩, rfl⟩
    exact ⟨_, _, hhead, List.append_assoc .., _, harguments, rfl⟩

/-- A marker text ends with its parenthesis. -/
theorem IsMarkerText.exists_eq_concat {marker text : List Char} {arguments : List Argument}
    (h : IsMarkerText marker arguments text) : ∃ before, text = before ++ [')'] := by
  have hclosing : ∀ {closing}, IsClosing closing → ∃ before, closing = before ++ [')'] := by
    rintro _ (⟨_⟩ | ⟨_, _⟩)
    · exact ⟨_, rfl⟩
    · exact ⟨_, by rw [← List.cons_append, ← List.append_assoc]⟩
  obtain ⟨-, ⟨-, hend⟩ | ⟨-, -, hend⟩⟩ := h
  all_goals
    obtain ⟨before, rfl⟩ := hclosing hend
    exact ⟨_, by simp only [← List.append_assoc]; rfl⟩

/-! ## Searching a text -/

/-- A part of a text that is searched from left to right. -/
inductive Piece where
  /-- A character at which no marker text starts. -/
  | plain (c : Char)
  /-- A marker text. -/
  | marked (arguments : List Argument) (text : List Char)

namespace Piece

/-- The characters of a part. -/
def chars : Piece → List Char
  | plain c => [c]
  | marked _ text => text

end Piece

/-- The text that has these parts. -/
def textOf (pieces : List Piece) : List Char := pieces.flatMap Piece.chars

@[simp] theorem textOf_nil : textOf [] = [] := rfl

@[simp] theorem textOf_plain (c : Char) (rest : List Piece) :
    textOf (.plain c :: rest) = c :: textOf rest := rfl

@[simp] theorem textOf_marked (arguments : List Argument) (text : List Char) (rest : List Piece) :
    textOf (.marked arguments text :: rest) = text ++ textOf rest := rfl

/-- The parts come from a search: marker texts, and characters at which none starts. -/
inductive Scans (marker : List Char) : List Piece → Prop
  | nil : Scans marker []
  | plain {c : Char} {rest : List Piece} (hnone : readHere? marker (c :: textOf rest) = none)
      (more : Scans marker rest) : Scans marker (.plain c :: rest)
  | marked {arguments : List Argument} {text : List Char} {rest : List Piece}
      (htext : IsMarkerText marker arguments text) (more : Scans marker rest) :
      Scans marker (.marked arguments text :: rest)

/-- **Every text can be searched.** -/
theorem exists_scans (marker text : List Char) :
    ∃ pieces, Scans marker pieces ∧ textOf pieces = text := by
  induction hlength : text.length using Nat.strongRecOn generalizing text with
  | ind length ih =>
    cases text with
    | nil => exact ⟨[], .nil, rfl⟩
    | cons c rest =>
      subst hlength
      cases hread : readHere? marker (c :: rest) with
      | none =>
        obtain ⟨pieces, hscans, rfl⟩ := ih rest.length (Nat.lt_succ_self _) rest rfl
        exact ⟨.plain c :: pieces, .plain hread hscans, rfl⟩
      | some result =>
        obtain ⟨text, htext, hsame⟩ := readHere?_eq_some_iff.1 hread
        obtain ⟨before, rfl⟩ := htext.exists_eq_concat
        obtain ⟨pieces, hscans, hrest⟩ := ih result.2.length (by
          rw [hsame, List.length_append, List.length_append]
          exact Nat.lt_add_of_pos_left (Nat.succ_pos _)) result.2 rfl
        exact ⟨.marked result.1 (before ++ [')']) :: pieces, .marked htext hscans, by
          rw [textOf_marked, hrest, ← hsame]⟩

/-- The marker texts among the parts of a text that starts at an offset after a character. -/
def foundIn : Nat → Option Char → List Piece → List Found
  | _, _, [] => []
  | offset, _, .plain c :: rest => foundIn (offset + c.utf8Size) (some c) rest
  | offset, before?, .marked arguments text :: rest =>
    ⟨offset, offset + byteLength text, before?.any joinsName, arguments⟩
      :: foundIn (offset + byteLength text) (text.getLast?.or before?) rest

theorem getLast?_or_some (c : Char) (rest : List Char) (before? : Option Char) :
    rest.getLast?.or (some c) = (c :: rest).getLast?.or before? := by
  rw [List.getLast?_cons]
  cases rest.getLast? <;> rfl

/-- Characters that still belong to a marker text are passed over. -/
theorem findFrom_append (marker front rest : List Char) (offset : Nat) (before? : Option Char) :
    findFrom marker offset before? front.length (front ++ rest)
      = findFrom marker (offset + byteLength front) (front.getLast?.or before?) 0 rest := by
  induction front generalizing offset before? with
  | nil => rfl
  | cons c front ih =>
    rw [List.cons_append, List.length_cons, findFrom, if_pos (Nat.succ_pos _),
      Nat.add_sub_cancel, ih, byteLength_cons, Nat.add_assoc, getLast?_or_some]

/-- **The marker texts that are found** are those among the parts that a search gives. -/
theorem findFrom_textOf {marker : List Char} {pieces : List Piece} (h : Scans marker pieces)
    (offset : Nat) (before? : Option Char) :
    findFrom marker offset before? 0 (textOf pieces) = foundIn offset before? pieces := by
  induction h generalizing offset before? with
  | nil => rfl
  | plain hnone _ ih =>
    rw [textOf_plain, findFrom, if_neg (Nat.lt_irrefl 0), hnone]
    exact ih _ _
  | @marked arguments text rest htext _ ih =>
    have hread : readHere? marker (text ++ textOf rest) = some (arguments, textOf rest) :=
      readHere?_eq_some_iff.2 ⟨text, htext, rfl⟩
    obtain ⟨c, tail, rfl⟩ : ∃ c tail, text = c :: tail := by
      obtain ⟨before, rfl⟩ := htext.exists_eq_concat
      exact List.exists_cons_of_ne_nil (List.append_ne_nil_of_right_ne_nil _ (List.cons_ne_nil _ _))
    rw [textOf_marked, List.cons_append, findFrom, if_neg (Nat.lt_irrefl 0)]
    rw [List.cons_append] at hread
    rw [hread]
    dsimp only
    have hlength : (c :: (tail ++ textOf rest)).length - (textOf rest).length
        = (c :: tail).length := by
      rw [← List.cons_append, List.length_append, Nat.add_sub_cancel]
    rw [hlength, ← List.cons_append, List.take_left, List.length_cons, Nat.add_sub_cancel,
      findFrom_append, ih, byteLength_cons, Nat.add_assoc, getLast?_or_some c tail before?]
    rfl

end Marker.Text

end Phrasebook
