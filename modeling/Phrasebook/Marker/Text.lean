import Phrasebook.Marker
import Phrasebook.Text.Alphanumeric
import Phrasebook.Text.Blank

/-!
# Marker calls in plain text

A marker text is the marker, `.`, `s`, `(`, a string literal, optionally `,` and a second literal,
an optional trailing `,` and `)`, with white space between these parts. `Marker.Text.calls` finds
the marker texts of a unit from left to right without building a syntax tree, so it also works on
files that are not scripts. A marker text after a letter, digit, `_`, `$` or `.` belongs to another
name and is passed over.

Models the `text` call source (specification, section 4.2a).
-/

namespace Phrasebook.Marker.Text

open Phrasebook.Text

/-- The rest after the characters of `part`. -/
def dropPart? : List Char → List Char → Option (List Char)
  | [], rest => some rest
  | _ :: _, [] => none
  | c :: part, d :: rest => if c = d then dropPart? part rest else none

/-- The rest after white space and one character. -/
def dropMark? (mark : Char) (text : List Char) : Option (List Char) :=
  match text.dropWhile isBlank with
  | c :: rest => if c = mark then some rest else none
  | [] => none

/-- The inside of a literal up to its closing quote, and the rest after that quote. A literal
holds no line feed or carriage return, except a carriage return after a backslash. -/
def splitLiteral? (quote : Char) : List Char → Option (List Char × List Char)
  | [] => none
  | [c] => if c = quote then some ([], []) else none
  | c :: d :: rest =>
    if c = quote then some ([], d :: rest)
    else if c = '\\' then
      if d = '\n' then none
      else (splitLiteral? quote rest).map fun (inside, after) => (c :: d :: inside, after)
    else if c = '\n' ∨ c = '\r' then none
    else (splitLiteral? quote (d :: rest)).map fun (inside, after) => (c :: inside, after)

/-- The argument of a literal with the given quote and inside. -/
def literalArgument (quote : Quote) (inside : List Char) : Argument :=
  match Literal.unquoteFrom .plain inside with
  | some value => .text (String.ofList value) quote
  | none => .other

/-- A literal after white space, and the rest. -/
def readLiteral? (text : List Char) : Option (Argument × List Char) :=
  match text.dropWhile isBlank with
  | '\'' :: rest => (splitLiteral? '\'' rest).map fun (inside, after) =>
    (literalArgument .single inside, after)
  | '"' :: rest => (splitLiteral? '"' rest).map fun (inside, after) =>
    (literalArgument .double inside, after)
  | _ => none

/-- The second literal of a marker text, with the comma before it. -/
def readSecond? (text : List Char) : Option (Argument × List Char) :=
  (dropMark? ',' text).bind readLiteral?

/-- The end of a marker text: an optional comma and the closing parenthesis. -/
def dropClosing? (text : List Char) : Option (List Char) :=
  match dropMark? ',' text with
  | some rest => dropMark? ')' rest
  | none => dropMark? ')' text

/-- The arguments of the marker text that starts here, and the rest after it. -/
def readHere? (marker : List Char) (text : List Char) : Option (List Argument × List Char) := do
  let text ← dropPart? marker text
  let text ← dropMark? '.' text
  let text ← dropMark? 's' text
  let text ← dropMark? '(' text
  let (phrase, text) ← readLiteral? text
  match readSecond? text with
  | some (ns, text) => pure ([phrase, ns], ← dropClosing? text)
  | none => pure ([phrase], ← dropClosing? text)

/-- A character that makes the marker after it part of another name. -/
def joinsName (c : Char) : Bool :=
  isAlphanumeric c || c == '_' || c == '$' || c == '.'

/-- One marker text found in a text: the offsets of its ends, the characters before it, and its
arguments. -/
structure Found where
  start : Nat
  stop : Nat
  joined : Bool
  arguments : List Argument

/-- The marker texts of `text`, which starts at `offset` after the character `before?`. While
`skip` is positive, that many characters still belong to the marker text found last. -/
def findFrom (marker : List Char) : Nat → Option Char → Nat → List Char → List Found
  | _, _, _, [] => []
  | offset, before?, skip, c :: rest =>
    if skip > 0 then findFrom marker (offset + c.utf8Size) (some c) (skip - 1) rest
    else
      match readHere? marker (c :: rest) with
      | none => findFrom marker (offset + c.utf8Size) (some c) 0 rest
      | some (arguments, after) =>
        let length := (c :: rest).length - after.length
        let stop := offset + byteLength ((c :: rest).take length)
        ⟨offset, stop, before?.any joinsName, arguments⟩
          :: findFrom marker (offset + c.utf8Size) (some c) (length - 1) rest

/-- The marker texts of a text, those joined to another name included. -/
def find (marker : String) (code : List Char) : List Found :=
  findFrom marker.toList 0 none 0 code

/-- The calls of a unit written as marker texts. -/
def calls (marker : String) (unit : SourceUnit) : List Call :=
  let code := unit.code.toList
  ((find marker code).filter (!·.joined)).map fun found =>
    let (before, after) := splitAtOffset found.start code
    let place := Position.between before after
    { calleePath := [marker, "s"]
      arguments := found.arguments
      span := ⟨found.start, found.stop⟩
      location := ⟨unit.path, place.line, place.column⟩
      sourceLine := place.sourceLine }

end Phrasebook.Marker.Text
