/-!
# String literals of scripts

A string literal is a text between two equal quotes. `quote` writes any text as a literal on one
line; `unquote` reads a literal back and refuses escapes without a value.

Escapes: a backslash before `n`, `t`, `r`, `b`, `f`, `v` or `0` stands for a control character,
before `x` or `u` for the character with the hexadecimal number that follows, before a line feed
for nothing, and before any other character for that character.

Models how a phrase and a key are written in code, and how the `text` call source reads a literal
(specification, sections 4.2 and 4.2a).
-/

namespace Phrasebook

/-- The two quotes of string literals. -/
inductive Quote where
  | single
  | double
  deriving DecidableEq, Repr, Inhabited

namespace Quote

/-- The character of a quote. -/
def char : Quote → Char
  | .single => '\''
  | .double => '"'

/-- The quote a literal starts with; anything but a double quote counts as single. -/
def ofLiteral (literal : String) : Quote :=
  if literal.toList.head? = some '"' then .double else .single

end Quote

namespace Literal

/-- How a character is written inside a literal. -/
def escape (quote : Quote) (c : Char) : List Char :=
  if c = '\\' then ['\\', '\\']
  else if c = '\n' then ['\\', 'n']
  else if c = '\r' then ['\\', 'r']
  else if c = '\u2028' then ['\\', 'u', '2', '0', '2', '8']
  else if c = '\u2029' then ['\\', 'u', '2', '0', '2', '9']
  else if c = quote.char then ['\\', c]
  else [c]

/-- The characters of the literal of a text. -/
def quoteChars (text : List Char) (quote : Quote) : List Char :=
  quote.char :: (text.flatMap (escape quote) ++ [quote.char])

/-- The literal of a text. -/
def quote (text : String) (quote : Quote) : String :=
  String.ofList (quoteChars text.toList quote)

/-- The value of a hexadecimal digit. -/
def hexDigit? (c : Char) : Option Nat :=
  if '0' ≤ c ∧ c ≤ '9' then some (c.toNat - '0'.toNat)
  else if 'a' ≤ c ∧ c ≤ 'f' then some (c.toNat - 'a'.toNat + 10)
  else if 'A' ≤ c ∧ c ≤ 'F' then some (c.toNat - 'A'.toNat + 10)
  else none

/-- The value of a nonempty run of hexadecimal digits. -/
def hexValue? : List Char → Option Nat
  | [] => none
  | digits => digits.foldl (fun value c => do pure ((← value) * 16 + (← hexDigit? c))) (some 0)

/-- The character with a given number; surrogates and numbers past the last plane have none. -/
def charOfCode? (code : Nat) : Option Char :=
  if code.isValidChar then some (Char.ofNat code) else none

/-- The character of the digits of an escape. One plus sign may stand before the digits. -/
def charOfDigits? (digits : List Char) : Option Char :=
  (match digits with
    | '+' :: digits => hexValue? digits
    | digits => hexValue? digits).bind charOfCode?

/-- Where the reading of a literal stands. -/
inductive ReadState where
  /-- Between characters. -/
  | plain
  /-- After a backslash. -/
  | escape
  /-- After a backslash and `u`. -/
  | unicode
  /-- Inside an escape that takes `left` more characters. -/
  | digits (left : Nat) (taken : List Char)
  /-- Inside an escape that a closing brace ends. -/
  | braces (taken : List Char)

/-- The text of the characters between the quotes of a literal. -/
def unquoteFrom : ReadState → List Char → Option (List Char)
  | .plain, [] => some []
  | .escape, [] => none
  | .unicode, [] => none
  | .digits _ taken, [] => (charOfDigits? taken).map ([·])
  | .braces taken, [] => (charOfDigits? taken).map ([·])
  | .plain, c :: rest =>
    if c = '\\' then unquoteFrom .escape rest else (unquoteFrom .plain rest).map (c :: ·)
  | .escape, c :: rest =>
    match c with
    | 'n' => (unquoteFrom .plain rest).map ('\n' :: ·)
    | 't' => (unquoteFrom .plain rest).map ('\t' :: ·)
    | 'r' => (unquoteFrom .plain rest).map ('\r' :: ·)
    | 'b' => (unquoteFrom .plain rest).map ('\x08' :: ·)
    | 'f' => (unquoteFrom .plain rest).map ('\x0c' :: ·)
    | 'v' => (unquoteFrom .plain rest).map ('\x0b' :: ·)
    | '0' => (unquoteFrom .plain rest).map ('\x00' :: ·)
    | 'x' => unquoteFrom (.digits 2 []) rest
    | 'u' => unquoteFrom .unicode rest
    | '\n' => unquoteFrom .plain rest
    | c => (unquoteFrom .plain rest).map (c :: ·)
  | .unicode, c :: rest =>
    if c = '{' then unquoteFrom (.braces []) rest else unquoteFrom (.digits 3 [c]) rest
  | .digits left taken, c :: rest =>
    if left ≤ 1 then
      (charOfDigits? (taken ++ [c])).bind fun value =>
        (unquoteFrom .plain rest).map (value :: ·)
    else unquoteFrom (.digits (left - 1) (taken ++ [c])) rest
  | .braces taken, c :: rest =>
    if c = '}' then
      (charOfDigits? taken).bind fun value => (unquoteFrom .plain rest).map (value :: ·)
    else unquoteFrom (.braces (taken ++ [c])) rest

/-- The text of a literal, given with its quotes. -/
def unquote (literal : String) : Option String :=
  match literal.toList with
  | [] => none
  | [_] => none
  | _ :: inner => (unquoteFrom .plain inner.dropLast).map String.ofList

end Literal

end Phrasebook
