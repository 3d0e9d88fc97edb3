import Phrasebook.Proofs.Literal
import Phrasebook.Proofs.MarkerText

/-!
# Written marker calls

A marker call is written as the marker, `.s(`, the phrase as a literal, a comma, a blank and the
namespace as a literal if there is one, and `)`. Such a text is one marker text, whatever the phrase
is: its quotes, backslashes and ends of lines are escaped, so that the literal ends at its own
closing quote.

Results:
* `isLiteral_quoteChars`: a quoted text is a literal with that text as its argument.
* `find_writtenCall`: a search of a written call finds the call and nothing else.
* `calls_writtenCall`: the call of a written call asks for its phrase and its namespace.
-/

namespace Phrasebook

open Text

/-- The number of bytes of the characters of a text is that of the text. -/
theorem Text.byteLength_toList (text : String) : byteLength text.toList = text.utf8ByteSize := by
  have hchars : ∀ chars : List Char, byteLength chars = (String.ofList chars).utf8ByteSize := by
    intro chars
    induction chars with
    | nil => simp
    | cons c rest ih =>
      rw [byteLength_cons, ih, ← List.singleton_append, String.ofList_append,
        String.utf8ByteSize_append, ← String.singleton_eq_ofList, String.utf8ByteSize_singleton]
  rw [hchars, String.ofList_toList]

/-- A marker call as it is written, with the namespace and its quotes if it has one. -/
def writtenCall (marker phrase : String) (quote : Quote) (ns? : Option (String × Quote)) : String :=
  marker ++ ".s(" ++ Literal.quote phrase quote
    ++ (ns?.elim "" fun (ns, nsQuote) => ", " ++ Literal.quote ns nsQuote) ++ ")"

/-- The arguments of a written call. -/
def writtenArguments (phrase : String) (quote : Quote) (ns? : Option (String × Quote)) :
    List Argument :=
  .text phrase quote :: (ns?.map fun (ns, nsQuote) => Argument.text ns nsQuote).toList

theorem toList_writtenCall (marker phrase : String) (quote : Quote)
    (ns? : Option (String × Quote)) :
    (writtenCall marker phrase quote ns?).toList
      = marker.toList ++ '.' :: 's' :: '(' :: (Literal.quoteChars phrase.toList quote
        ++ ((ns?.elim [] fun (ns, nsQuote) => ',' :: ' ' :: Literal.quoteChars ns.toList nsQuote)
          ++ [')'])) := by
  cases ns? <;> simp [writtenCall, Literal.quote]

namespace Marker.Text

/-- What is written for one character stays inside the literal. -/
theorem inside_escape_append (quote : Quote) (c : Char) {rest : List Char}
    (h : Inside quote.char rest) : Inside quote.char (Literal.escape quote c ++ rest) := by
  have hdigit : ∀ {d : Char} {rest : List Char}, d.isDigit = true → Inside quote.char rest →
      Inside quote.char (d :: rest) := by
    intro d rest hd hrest
    refine .plain ?_ ?_ ?_ hrest
    · rintro rfl
      cases quote <;> cases hd
    · rintro rfl
      cases hd
    · rintro (rfl | rfl) <;> cases hd
  unfold Literal.escape
  split
  · exact .escape (by decide) h
  split
  · exact .escape (by decide) h
  split
  · exact .escape (by decide) h
  split
  · exact .escape (by decide) (hdigit rfl (hdigit rfl (hdigit rfl (hdigit rfl h))))
  split
  · exact .escape (by decide) (hdigit rfl (hdigit rfl (hdigit rfl (hdigit rfl h))))
  split
  · next hfeed _ _ _ _ => exact .escape hfeed h
  · next hbackslash hfeed hreturn _ _ hquote =>
    exact .plain hquote hbackslash (not_or.2 ⟨hfeed, hreturn⟩) h

/-- **An escaped text stays inside its literal**: it holds no quote that could end the literal, and
no end of a line. -/
theorem inside_flatMap_escape (quote : Quote) (text : List Char) :
    Inside quote.char (text.flatMap (Literal.escape quote)) := by
  induction text with
  | nil => exact .nil
  | cons c rest ih =>
    rw [List.flatMap_cons]
    exact inside_escape_append quote c ih

/-- The argument of a quoted text is the text. -/
theorem literalArgument_flatMap_escape (text : String) (quote : Quote) :
    literalArgument quote (text.toList.flatMap (Literal.escape quote)) = .text text quote := by
  unfold literalArgument
  rw [Literal.unquoteFrom_flatMap_escape]
  dsimp only
  rw [String.ofList_toList]

/-- **A quoted text is a literal with that text as its argument**, also after white space. -/
theorem isLiteral_quoteChars {gap : List Char} (hgap : Blank gap) (text : String) (quote : Quote) :
    IsLiteral (.text text quote) (gap ++ Literal.quoteChars text.toList quote) := by
  rw [← literalArgument_flatMap_escape]
  exact .intro hgap (inside_flatMap_escape quote text.toList)

/-- A written call is a marker text. -/
theorem isMarkerText_writtenCall (marker phrase : String) (quote : Quote)
    (ns? : Option (String × Quote)) :
    IsMarkerText marker.toList (writtenArguments phrase quote ns?)
      (writtenCall marker phrase quote ns?).toList := by
  have hhead : IsHead marker.toList (marker.toList ++ ['.', 's', '(']) := .intro .nil .nil .nil
  have hphrase : IsLiteral (.text phrase quote) (Literal.quoteChars phrase.toList quote) :=
    isLiteral_quoteChars .nil phrase quote
  have hclosing : IsClosing [')'] := .plain .nil
  have htext : (writtenCall marker phrase quote ns?).toList
      = (marker.toList ++ ['.', 's', '(']) ++ (Literal.quoteChars phrase.toList quote
        ++ ((ns?.elim [] fun (ns, nsQuote) => ',' :: ' ' :: Literal.quoteChars ns.toList nsQuote)
          ++ [')'])) := by
    rw [toList_writtenCall, List.append_assoc]
    rfl
  rw [htext]
  refine .intro hhead ?_
  cases ns? with
  | none => exact .one hphrase hclosing
  | some ns =>
    have hblank : Blank [' '] := by simp [Blank, isBlank]
    exact .two hphrase (.intro .nil (isLiteral_quoteChars hblank ns.1 ns.2)) hclosing

/-- **A search of a written call finds the call and nothing else.** -/
theorem find_writtenCall (marker phrase : String) (quote : Quote) (ns? : Option (String × Quote)) :
    find marker (writtenCall marker phrase quote ns?).toList
      = [⟨0, (writtenCall marker phrase quote ns?).utf8ByteSize, false,
          writtenArguments phrase quote ns?⟩] := by
  have hscans : Scans marker.toList [.marked (writtenArguments phrase quote ns?)
      (writtenCall marker phrase quote ns?).toList] :=
    .marked (isMarkerText_writtenCall marker phrase quote ns?) .nil
  have hfound := findFrom_textOf hscans 0 none
  rw [textOf_marked, textOf_nil, List.append_nil] at hfound
  rw [find, hfound, foundIn, Nat.zero_add, byteLength_toList]
  rfl

/-- **Written literals are read back**, as literals and as the arguments of a marker call: a search
of a written call gives one call, which spans all of the text and asks for the phrase, in its
quotes, and for the namespace. -/
theorem calls_writtenCall (marker path phrase : String) (quote : Quote)
    (ns? : Option (String × Quote)) :
    Literal.unquote (Literal.quote phrase quote) = some phrase
      ∧ ∃ call found, calls marker ⟨path, writtenCall marker phrase quote ns?⟩ = [call]
        ∧ call.span = ⟨0, (writtenCall marker phrase quote ns?).utf8ByteSize⟩
        ∧ call.marker? marker = some found
        ∧ found.phrase = phrase ∧ found.quote = quote ∧ found.ns? = ns?.map Prod.fst := by
  have hunquote := Literal.unquote_quoteChars phrase.toList quote
  rw [String.ofList_toList] at hunquote
  refine ⟨hunquote, ?_⟩
  unfold calls
  dsimp only
  rw [find_writtenCall]
  cases ns? with
  | none => exact ⟨_, _, rfl, rfl, if_pos rfl, rfl, rfl, rfl⟩
  | some ns => exact ⟨_, _, rfl, rfl, if_pos rfl, rfl, rfl, rfl⟩

end Marker.Text

end Phrasebook
