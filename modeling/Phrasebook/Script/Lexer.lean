import Phrasebook.Script.Token
import Phrasebook.Text.IdentifierChar
import Phrasebook.Text.Position

/-!
# Reading tokens

`Lexeme.next` reads the token after an offset. Blanks and comments are passed over first; what
they leave behind is whether a line ended among them.

An HTML comment opener and, at the start of a line, an HTML comment closer start a line comment, and
so does a row of seven signs that marks one side of an unsettled merge. A token after such a comment
begins, for positions, where the comment begins.

Inside a type the signs `<` and `>` are tokens of their own, whatever follows them.

What is no token is a fault, which ends where the reading of a token broke off.
-/

namespace Phrasebook.Script

open Phrasebook.Text

/-- Line ends of a script. -/
def isLineEnd (c : Char) : Bool :=
  c == '\n' || c == '\r' || c == '\u2028' || c == '\u2029'

/-- White space of a script other than line ends. -/
def isSpace (c : Char) : Bool :=
  c == ' ' || c == '\t' || c == '\x0b' || c == '\x0c' || c == '\x85' || c == '\u00a0'
    || c == '\ufeff' || c == '\u1680' || ('\u2000' ≤ c && c ≤ '\u200b') || c == '\u202f'
    || c == '\u205f' || c == '\u3000'

/-! ## Blanks and comments -/

/-- Where the passing over of blanks stands. -/
inductive GapState where
  | between
  | lineComment
  /-- Before the star that opens a block comment. -/
  | blockOpening
  | blockComment
  /-- Before the slash that closes a block comment. -/
  | blockClosing

/-- The end of a run of blanks and comments. -/
structure Gap where
  offset : Nat
  rest : List Char
  newline : Bool
  /-- Where the first HTML comment or merge mark begins. -/
  mark? : Option Nat

/-- A merge mark starts at the head of this text, which begins a line. Where the signs `<` and `>`
stand alone, a row of them is no mark. -/
def startsMergeMark (alone : Bool) (text : List Char) : Bool :=
  "=======".toList.isPrefixOf text
    || !alone && ("<<<<<<< ".toList.isPrefixOf text || ">>>>>>> ".toList.isPrefixOf text)

/-- Passes over blanks and comments. A block comment may lack its end. Where the signs `<` and `>`
stand alone, no HTML comment opens with `<` and no row of these signs is a merge mark. -/
def skipGap (alone : Bool) : GapState → Nat → Bool → Option Nat → List Char → Gap
  | _, offset, newline, mark?, [] => ⟨offset, [], newline, mark?⟩
  | .between, offset, newline, mark?, c :: rest =>
    if isLineEnd c then skipGap alone .between (offset + c.utf8Size) true mark? rest
    else if isSpace c then skipGap alone .between (offset + c.utf8Size) newline mark? rest
    else if c = '/' ∧ rest.head? = some '/' then
      skipGap alone .lineComment (offset + 1) newline mark? rest
    else if c = '/' ∧ rest.head? = some '*' then
      skipGap alone .blockOpening (offset + 1) newline mark? rest
    else if !alone ∧ c = '<' ∧ rest.take 3 = ['!', '-', '-'] then
      skipGap alone .lineComment (offset + 1) newline (mark? <|> some offset) rest
    else if newline ∧ c = '-' ∧ rest.take 2 = ['-', '>'] then
      skipGap alone .lineComment (offset + 1) newline (mark? <|> some offset) rest
    else if newline ∧ startsMergeMark alone (c :: rest) then
      skipGap alone .lineComment (offset + 1) newline (mark? <|> some offset) rest
    else ⟨offset, c :: rest, newline, mark?⟩
  | .lineComment, offset, newline, mark?, c :: rest =>
    if isLineEnd c then skipGap alone .between (offset + c.utf8Size) true mark? rest
    else skipGap alone .lineComment (offset + c.utf8Size) newline mark? rest
  | .blockOpening, offset, newline, mark?, c :: rest =>
    skipGap alone .blockComment (offset + c.utf8Size) newline mark? rest
  | .blockComment, offset, newline, mark?, c :: rest =>
    if c = '*' ∧ rest.head? = some '/' then
      skipGap alone .blockClosing (offset + 1) newline mark? rest
    else skipGap alone .blockComment (offset + c.utf8Size) (newline || isLineEnd c) mark? rest
  | .blockClosing, offset, newline, mark?, c :: rest =>
    skipGap alone .between (offset + c.utf8Size) newline mark? rest

/-! ## Escapes -/

/-- Where the reading of escapes stands. Underscores between hexadecimal digits count for
nothing. -/
inductive EscapeState where
  | plain
  /-- After a backslash. -/
  | backslash
  /-- After a backslash and `u`. -/
  | unicode
  /-- Inside a number of `left` more hexadecimal digits. -/
  | digits (left : Nat) (value : Nat)
  /-- Inside a number that a closing brace ends; `none` before its first digit. -/
  | braces (value? : Option Nat)
  /-- Inside an octal number that may take `left` more digits. -/
  | octal (left : Nat) (value : Nat)
  /-- After a backslash and a carriage return. -/
  | lineEnd

/-- A part of the inside of a literal. -/
inductive Piece where
  | plain (code : Nat)
  /-- An escape, with the code point it stands for, if any. -/
  | escape (code? : Option Nat)

namespace Piece

/-- The code point that a part stands for, if any. -/
def code? : Piece → Option Nat
  | .plain code => some code
  | .escape code? => code?

/-- The code points after the last escape. -/
def codesAtEnd (pieces : List Piece) : List Nat :=
  (pieces.reverse.takeWhile fun piece => piece matches .plain _).reverse.filterMap code?

end Piece

/-- The parts of the inside of a literal, surrogates included, or the rest from where an escape
breaks off. In a template, octal escapes are malformed and a carriage return, alone or before a
line feed, stands for a line feed. -/
def decodeFrom (inTemplate : Bool) : EscapeState → List Char → Except (List Char) (List Piece)
  | .plain, [] => .ok []
  | .lineEnd, [] => .ok []
  | .octal _ value, [] => .ok [.escape (some value)]
  | _, [] => .error []
  | .plain, c :: rest =>
    if c = '\\' then decodeFrom inTemplate .backslash rest
    else if inTemplate ∧ c = '\r' then
      (decodeFrom inTemplate .lineEnd rest).map (.plain '\n'.toNat :: ·)
    else (decodeFrom inTemplate .plain rest).map (.plain c.toNat :: ·)
  | .lineEnd, c :: rest =>
    if c = '\n' then decodeFrom inTemplate .plain rest
    else if c = '\\' then decodeFrom inTemplate .backslash rest
    else if inTemplate ∧ c = '\r' then
      (decodeFrom inTemplate .lineEnd rest).map (.plain '\n'.toNat :: ·)
    else (decodeFrom inTemplate .plain rest).map (.plain c.toNat :: ·)
  | .backslash, c :: rest =>
    match c with
    | 'n' => (decodeFrom inTemplate .plain rest).map (.escape (some 10) :: ·)
    | 't' => (decodeFrom inTemplate .plain rest).map (.escape (some 9) :: ·)
    | 'r' => (decodeFrom inTemplate .plain rest).map (.escape (some 13) :: ·)
    | 'b' => (decodeFrom inTemplate .plain rest).map (.escape (some 8) :: ·)
    | 'f' => (decodeFrom inTemplate .plain rest).map (.escape (some 12) :: ·)
    | 'v' => (decodeFrom inTemplate .plain rest).map (.escape (some 11) :: ·)
    | 'x' => decodeFrom inTemplate (.digits 2 0) rest
    | 'u' => decodeFrom inTemplate .unicode rest
    | '\r' => (decodeFrom inTemplate .lineEnd rest).map (.escape none :: ·)
    | '\n' | '\u2028' | '\u2029' =>
      (decodeFrom inTemplate .plain rest).map (.escape none :: ·)
    | c =>
      if '0' ≤ c ∧ c ≤ '7' then
        if c = '0' ∧ !(rest.head?.any fun d => '0' ≤ d && d ≤ '7') then
          (decodeFrom inTemplate .plain rest).map (.escape (some 0) :: ·)
        else if inTemplate then .error rest
        else decodeFrom inTemplate (.octal 2 (c.toNat - 48)) rest
      else (decodeFrom inTemplate .plain rest).map (.escape (some c.toNat) :: ·)
  | .unicode, c :: rest =>
    if c = '{' then decodeFrom inTemplate (.braces none) rest
    else if c = '_' then decodeFrom inTemplate (.digits 4 0) rest
    else
      match Literal.hexDigit? c with
      | some d => decodeFrom inTemplate (.digits 3 d) rest
      | none => .error (c :: rest)
  | .digits left value, c :: rest =>
    if c = '_' then decodeFrom inTemplate (.digits left value) rest
    else
      match Literal.hexDigit? c with
      | some d =>
        if left ≤ 1 then
          (decodeFrom inTemplate .plain rest).map (.escape (some (value * 16 + d)) :: ·)
        else decodeFrom inTemplate (.digits (left - 1) (value * 16 + d)) rest
      | none => .error (c :: rest)
  | .braces value?, c :: rest =>
    if c = '_' then decodeFrom inTemplate (.braces value?) rest
    else if c = '}' then
      match value? with
      | some value =>
        if value ≤ 0x10FFFF then
          (decodeFrom inTemplate .plain rest).map (.escape (some value) :: ·)
        else .error rest
      | none => .error rest
    else
      match Literal.hexDigit? c with
      | some d => decodeFrom inTemplate (.braces (some (value?.getD 0 * 16 + d))) rest
      | none => .error (c :: rest)
  | .octal left value, c :: rest =>
    if '0' ≤ c ∧ c ≤ '7' ∧ (left = 2 ∨ left = 1 ∧ value * 8 + (c.toNat - 48) ≤ 255) then
      if left = 1 then
        (decodeFrom inTemplate .plain rest).map
          (.escape (some (value * 8 + (c.toNat - 48))) :: ·)
      else decodeFrom inTemplate (.octal 1 (value * 8 + (c.toNat - 48))) rest
    else if c = '\\' then
      (decodeFrom inTemplate .backslash rest).map (.escape (some value) :: ·)
    else
      (decodeFrom inTemplate .plain rest).map
        fun pieces => .escape (some value) :: .plain c.toNat :: pieces

/-- The text of code points, where a high surrogate and the low one after it make one character;
`none` if half of a pair remains. -/
def textOfCodes : List Nat → Option (List Char)
  | [] => some []
  | [code] => (Literal.charOfCode? code).map ([·])
  | high :: low :: rest =>
    if 0xD800 ≤ high ∧ high < 0xDC00 ∧ 0xDC00 ≤ low ∧ low < 0xE000 then do
      let c ← Literal.charOfCode? (0x10000 + (high - 0xD800) * 0x400 + (low - 0xDC00))
      (textOfCodes rest).map (c :: ·)
    else do
      let c ← Literal.charOfCode? high
      (textOfCodes (low :: rest)).map (c :: ·)

/-! ## Words, strings and numbers -/

/-- A word as far as it could be read. -/
structure WordReading where
  /-- The characters with escapes decoded, or `none` where an escape is malformed. -/
  name? : Option (List Char)
  escaped : Bool
  /-- The offset after what was read. -/
  stop : Nat
  rest : List Char

namespace WordReading

/-- A word with one more character in front. -/
def cons (c : Char) (reading : WordReading) : WordReading :=
  { reading with name? := reading.name?.map (c :: ·) }

end WordReading

/-- Reads a word. An escape may stand for any character, also for one that no identifier has. -/
def readWordFrom : EscapeState → Bool → Nat → List Char → WordReading
  | .plain, escaped, offset, [] => ⟨some [], escaped, offset, []⟩
  | _, escaped, offset, [] => ⟨none, escaped, offset, []⟩
  | .plain, escaped, offset, c :: rest =>
    if c = '\\' then readWordFrom .backslash true (offset + 1) rest
    else if isIdentifierPart c then
      (readWordFrom .plain escaped (offset + c.utf8Size) rest).cons c
    else ⟨some [], escaped, offset, c :: rest⟩
  | .backslash, escaped, offset, c :: rest =>
    if c = 'u' then readWordFrom .unicode escaped (offset + 1) rest
    else ⟨none, escaped, offset, c :: rest⟩
  | .unicode, escaped, offset, c :: rest =>
    if c = '{' then readWordFrom (.braces none) escaped (offset + 1) rest
    else
      match Literal.hexDigit? c with
      | some d => readWordFrom (.digits 3 d) escaped (offset + 1) rest
      | none => ⟨none, escaped, offset, c :: rest⟩
  | .digits left value, escaped, offset, c :: rest =>
    match Literal.hexDigit? c with
    | some d =>
      if left ≤ 1 then
        match Literal.charOfCode? (value * 16 + d) with
        | some e => (readWordFrom .plain escaped (offset + 1) rest).cons e
        | none => ⟨none, escaped, offset + 1, rest⟩
      else readWordFrom (.digits (left - 1) (value * 16 + d)) escaped (offset + 1) rest
    | none => ⟨none, escaped, offset, c :: rest⟩
  | .braces value?, escaped, offset, c :: rest =>
    if c = '}' then
      match value?.bind Literal.charOfCode? with
      | some e => (readWordFrom .plain escaped (offset + 1) rest).cons e
      | none => ⟨none, escaped, offset + 1, rest⟩
    else
      match Literal.hexDigit? c with
      | some d =>
        readWordFrom (.braces (some (value?.getD 0 * 16 + d))) escaped (offset + 1) rest
      | none => ⟨none, escaped, offset, c :: rest⟩
  | .octal _ _, escaped, offset, c :: rest => ⟨none, escaped, offset, c :: rest⟩
  | .lineEnd, escaped, offset, c :: rest => ⟨none, escaped, offset, c :: rest⟩

/-- The inside of a string literal, whether its closing quote follows, the offset after it and
the rest. A line feed or a carriage return that no backslash precedes ends the literal early. -/
def splitString (quote : Char) : Nat → List Char → List Char × Bool × Nat × List Char
  | offset, [] => ([], false, offset, [])
  | offset, [c] =>
    if c = quote then ([], true, offset + 1, [])
    else if c = '\n' ∨ c = '\r' then ([], false, offset, [c])
    else ([c], false, offset + c.utf8Size, [])
  | offset, c :: d :: rest =>
    if c = quote then ([], true, offset + 1, d :: rest)
    else if c = '\n' ∨ c = '\r' then ([], false, offset, c :: d :: rest)
    else if c = '\\' then
      match rest with
      | '\n' :: more =>
        if d = '\r' then
          let (inside, tail) := splitString quote (offset + 3) more
          (c :: d :: '\n' :: inside, tail)
        else
          let (inside, tail) := splitString quote (offset + 1 + d.utf8Size) ('\n' :: more)
          (c :: d :: inside, tail)
      | rest =>
        let (inside, tail) := splitString quote (offset + 1 + d.utf8Size) rest
        (c :: d :: inside, tail)
    else
      let (inside, tail) := splitString quote (offset + c.utf8Size) (d :: rest)
      (c :: inside, tail)

/-- A string literal after its opening quote. Of one that is not closed, the value is what follows
the last escape. -/
def readString (quote : Char) (offset : Nat) (text : List Char) : Token × Nat × List Char :=
  let (inside, closed, stop, after) := splitString quote offset text
  match decodeFrom false .plain inside with
  | .ok pieces =>
    let codes := if closed then pieces.filterMap Piece.code? else Piece.codesAtEnd pieces
    (.string ((textOfCodes codes).map String.ofList) (if quote = '"' then .double else .single),
      stop, after)
  | .error left =>
    let read := inside.length - left.length
    (.fault, offset + byteLength (inside.take read), text.drop read)

/-- A decimal digit or an underscore between digits. -/
def isDigitOrGap (c : Char) : Bool := c.isDigit || c == '_'

/-- A number after the prefix for its base, and the rest. -/
def dropBased (isBaseDigit : Char → Bool) (text : List Char) : Token × List Char :=
  let isPart := fun c => isBaseDigit c || c == '_'
  if (text.takeWhile isPart).any isBaseDigit then
    match text.dropWhile isPart with
    | 'n' :: rest => (.bigInteger, rest)
    | rest => (.number, rest)
  else (.fault, text)

/-- A number before its exponent, if it has one, and the rest after it. -/
def dropExponent : List Char → Token × List Char
  | c :: rest =>
    if c = 'e' ∨ c = 'E' then
      let digits := match rest with
        | '+' :: digits => digits
        | '-' :: digits => digits
        | digits => digits
      if (digits.takeWhile isDigitOrGap).any Char.isDigit then
        (.number, digits.dropWhile isDigitOrGap)
      else (.fault, digits)
    else (.number, c :: rest)
  | [] => (.number, [])

/-- A decimal number and the rest. A number with a leading zero has octal digits only, and then
no fraction, or counts as decimal. -/
def dropDecimal (text : List Char) : Token × List Char :=
  let whole := text.takeWhile isDigitOrGap
  let rest := text.dropWhile isDigitOrGap
  let leadingZero := whole.head? == some '0' && whole.tail.head?.any Char.isDigit
  if leadingZero && whole.all (fun c => c < '8' || c == '_') then (.number, rest)
  else
    match rest with
    | 'n' :: after =>
      if whole.isEmpty || leadingZero then dropExponent rest else (.bigInteger, after)
    | '.' :: fraction => dropExponent (fraction.dropWhile isDigitOrGap)
    | _ => dropExponent rest

/-- A number and the rest. No word may follow a number directly, other than a big integer. -/
def dropNumber (text : List Char) : Token × List Char :=
  let number := match text with
    | '0' :: c :: rest =>
      if c = 'x' ∨ c = 'X' then dropBased (fun d => (Literal.hexDigit? d).isSome) rest
      else if c = 'o' ∨ c = 'O' then dropBased (fun d => '0' ≤ d && d ≤ '7') rest
      else if c = 'b' ∨ c = 'B' then dropBased (fun d => d == '0' || d == '1') rest
      else dropDecimal text
    | _ => dropDecimal text
  match number with
  | (.number, rest) => (if rest.head?.any isIdentifierStart then .fault else .number, rest)
  | other => other

/-- The symbol that starts a text, and the rest. An optional chain is not followed by a digit. The
signs `<` and `>` may have to stand alone. -/
def dropSymbol (alone : Bool) (text : List Char) : Option (String × List Char) :=
  let single := alone && text.head?.any fun c => c == '<' || c == '>'
  (symbols.find? fun symbol =>
      symbol.toList.isPrefixOf text && !(single && symbol.length != 1)
        && !(symbol == "?." && (text.drop 2).head?.any Char.isDigit)).map
    fun symbol => (symbol, text.drop symbol.length)

/-! ## The next token -/

/-- The inside of a template chunk, whether a substitution follows it, the offset after the chunk
and its end mark, and the rest; `none` if the template does not end. -/
def splitTemplate : Nat → List Char → Option (List Char × Bool × Nat × List Char)
  | _, [] => none
  | offset, [c] => if c = '`' then some ([], false, offset + 1, []) else none
  | offset, c :: d :: rest =>
    if c = '`' then some ([], false, offset + 1, d :: rest)
    else if c = '$' ∧ d = '{' then some ([], true, offset + 2, rest)
    else if c = '\\' then
      (splitTemplate (offset + 1 + d.utf8Size) rest).map
        fun (inside, tail) => (c :: d :: inside, tail)
    else
      (splitTemplate (offset + c.utf8Size) (d :: rest)).map
        fun (inside, tail) => (c :: inside, tail)

/-- The token that starts a text, the offset after it and the rest. The signs `<` and `>` may have to
stand alone. -/
def readToken (alone : Bool) (offset : Nat) (text : List Char) : Token × Nat × List Char :=
  match text with
  | [] => (.finish, offset, [])
  | c :: rest =>
    if isIdentifierStart c ∨ c = '\\' then
      let reading := readWordFrom .plain false offset text
      match reading.name? with
      | some word =>
        let name := String.ofList word
        let token := if reading.escaped && isReserved name then .fault else .word name
        (token, reading.stop, reading.rest)
      | none => (.fault, reading.stop, reading.rest)
    else if c.isDigit ∨ c = '.' ∧ rest.head?.any Char.isDigit then
      let (token, after) := dropNumber text
      (token, offset + (text.length - after.length), after)
    else if c = '\'' ∨ c = '"' then readString c (offset + 1) rest
    else if c = '`' ∧ (splitTemplate (offset + 1) rest).isNone then
      (.fault, offset + byteLength text, [])
    else
      match dropSymbol alone text with
      | some (symbol, after) => (.symbol symbol, offset + symbol.length, after)
      | none => (.fault, offset + c.utf8Size, rest)

/-- The token after an offset, where the signs `<` and `>` may have to stand alone. At the start of a
script a line counts as begun. -/
def Lexeme.next (alone : Bool) (offset : Nat) (atStart : Bool) (text : List Char) : Lexeme :=
  let gap := skipGap alone .between offset atStart none text
  let (token, stop, rest) := readToken alone gap.offset gap.rest
  { token, start := gap.mark?.getD gap.offset, stop, newline := gap.newline, rest }

/-- The token after this one. Nothing follows a dead end. -/
def Lexeme.following (alone : Bool) (lexeme : Lexeme) : Lexeme :=
  if lexeme.token = .deadEnd then lexeme
  else Lexeme.next alone lexeme.stop false lexeme.rest

/-- The sign `>` that starts this token, alone. -/
def Lexeme.splitAngle (lexeme : Lexeme) : Lexeme :=
  match lexeme.token with
  | .symbol symbol =>
    if symbol.startsWith ">" then
      { lexeme with
        token := .symbol ">"
        stop := lexeme.stop - (symbol.length - 1)
        rest := symbol.toList.drop 1 ++ lexeme.rest }
    else lexeme
  | _ => lexeme

/-- The sign `<` or `>` that this token is, with the signs after it that belong to one operator. -/
def Lexeme.joinAngle (lexeme : Lexeme) : Lexeme :=
  match lexeme.token with
  | .symbol symbol =>
    if symbol == "<" || symbol == ">" then
      match dropSymbol false (symbol.toList ++ lexeme.rest) with
      | some (joined, rest) =>
        { lexeme with
          token := .symbol joined
          stop := lexeme.stop + (joined.length - 1)
          rest }
      | none => lexeme
    else lexeme
  | _ => lexeme

/-- The token after an offset inside an element of markup: text up to a brace or a bracket, or
what opens an expression, a closing tag or an element. -/
def Lexeme.nextInMarkup (offset : Nat) (text : List Char) : Lexeme :=
  let content := text.takeWhile fun c => c != '{' && c != '<'
  let (token, length, rest) :=
    if content.isEmpty then
      match text with
      | [] => (Token.finish, 0, [])
      | '<' :: '/' :: rest => (.symbol closingBracket, 2, rest)
      | c :: rest => (.symbol (String.singleton c), 1, rest)
    else (.markupText, byteLength content, text.drop content.length)
  { token, start := offset, stop := offset + length, newline := false, rest }

/-! ## Text that only the grammar can find -/

/-- Where the reading of a regular expression stands. -/
inductive RegexState where
  | plain
  | escaped
  /-- Inside a character class. -/
  | inClass
  | inClassEscaped

/-- The number of bytes up to the end of the slash that closes a regular expression, and the rest
after it. A line feed or a carriage return ends it early. -/
def dropRegexBody : RegexState → List Char → Option (Nat × List Char)
  | _, [] => none
  | state, c :: rest =>
    if c = '\n' ∨ c = '\r' then none
    else
      (match state, c with
        | .plain, '/' => some (0, rest)
        | .plain, '\\' => dropRegexBody .escaped rest
        | .plain, '[' => dropRegexBody .inClass rest
        | .plain, _ => dropRegexBody .plain rest
        | .escaped, _ => dropRegexBody .plain rest
        | .inClass, ']' => dropRegexBody .plain rest
        | .inClass, '\\' => dropRegexBody .inClassEscaped rest
        | .inClass, _ => dropRegexBody .inClass rest
        | .inClassEscaped, _ => dropRegexBody .inClass rest).map
          fun (length, after) => (length + c.utf8Size, after)

/-- The value of a template chunk: `none` if an escape is malformed, `some none` if it holds half
of a surrogate pair. -/
def templateValue (inside : List Char) : Option (Option String) :=
  (decodeFrom true .plain inside).toOption.map fun pieces =>
    (textOfCodes (pieces.filterMap Piece.code?)).map String.ofList

end Phrasebook.Script
