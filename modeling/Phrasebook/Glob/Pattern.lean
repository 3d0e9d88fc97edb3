/-!
# Glob patterns

A pattern matches whole texts: `?` any character, `*` any characters, slashes included, `[…]` the
characters of a class, `[!…]` the other ones, and `**` between slashes any directories, none
included. Every other character matches itself.

Models the patterns of `includes` and `ignores` (specification, section 10).
-/

namespace Phrasebook.Glob

/-- Characters from a first to a last one. -/
structure CharRange where
  first : Char
  last : Char
  deriving DecidableEq, Repr

namespace CharRange

/-- The character lies in the range. -/
def contains (range : CharRange) (c : Char) : Bool := range.first ≤ c && c ≤ range.last

/-- The ranges of a class. A dash between two characters makes a range. -/
def ofClass : List Char → List CharRange
  | [] => []
  | first :: '-' :: last :: rest => ⟨first, last⟩ :: ofClass rest
  | c :: rest => ⟨c, c⟩ :: ofClass rest

end CharRange

/-- A part of a pattern. -/
inductive Token where
  | char (c : Char)
  | anyChar
  | oneOf (ranges : List CharRange)
  | noneOf (ranges : List CharRange)
  | anyChars
  | directories
  deriving DecidableEq, Repr

/-- A pattern. -/
abbrev Pattern := List Token

/-- What is wrong with a text that is no pattern. -/
inductive FaultKind where
  | wildcards
  | directories
  | range
  deriving DecidableEq, Repr

/-- Where a text is no pattern, counted in characters. -/
structure Fault where
  position : Nat
  kind : FaultKind
  deriving DecidableEq, Repr

/-- What is wrong, in words. -/
def FaultKind.text : FaultKind → String
  | .wildcards => "wildcards are either regular `*` or recursive `**`"
  | .directories => "recursive wildcards must form a single path component"
  | .range => "invalid range pattern"

/-- The text of a fault. -/
def Fault.text (fault : Fault) : String :=
  "Pattern syntax error near position " ++ toString fault.position ++ ": " ++ fault.kind.text

namespace Pattern

/-! ## Reading -/

/-- A class after its opening bracket: its part and the number of characters after the bracket.
The first character after the bracket, or after `!`, belongs to the class. -/
def readClass? : List Char → Option (Token × Nat)
  | '!' :: first :: rest =>
    let inside := rest.takeWhile (· != ']')
    if inside.length < rest.length then
      some (.noneOf (CharRange.ofClass (first :: inside)), inside.length + 3)
    else none
  | first :: rest =>
    let inside := rest.takeWhile (· != ']')
    if inside.length < rest.length then
      some (.oneOf (CharRange.ofClass (first :: inside)), inside.length + 2)
    else none
  | [] => none

/-- The part that starts with a star after a character, and the number of characters after it. -/
def readStars (before? : Option Char) (position : Nat) (rest : List Char) :
    Except Fault (Token × Nat) :=
  let more := rest.takeWhile (· == '*')
  match more.length with
  | 0 => .ok (.anyChars, 0)
  | 1 =>
    if before?.all (· == '/') then
      match rest.drop 1 with
      | [] => .ok (.directories, 1)
      | c :: _ =>
        if c = '/' then .ok (.directories, 2) else .error ⟨position + 2, .directories⟩
    else .error ⟨position - 1, .directories⟩
  | _ => .error ⟨position + 2, .wildcards⟩

/-- The pattern of the characters from a position on, after the character before it. Characters
of a part that was read are passed over. -/
def readFrom (before? : Option Char) (position skip : Nat) : List Char → Except Fault Pattern
  | [] => .ok []
  | c :: rest =>
    if skip > 0 then readFrom (some c) (position + 1) (skip - 1) rest
    else if c = '?' then (readFrom (some c) (position + 1) 0 rest).map (.anyChar :: ·)
    else if c = '*' then
      match readStars before? position rest with
      | .ok (token, length) => (readFrom (some c) (position + 1) length rest).map (token :: ·)
      | .error fault => .error fault
    else if c = '[' then
      match readClass? rest with
      | some (token, length) => (readFrom (some c) (position + 1) length rest).map (token :: ·)
      | none => .error ⟨position, .range⟩
    else (readFrom (some c) (position + 1) 0 rest).map (.char c :: ·)

/-- The pattern that a text is. -/
def ofText (text : String) : Except Fault Pattern := readFrom none 0 0 text.toList

/-- The text has a star or a question mark. Texts without one stand for themselves. -/
def isWild (text : String) : Bool := text.toList.any fun c => c == '*' || c == '?'

/-! ## Matching -/

/-- A condition holds of the text or of a rest of it. -/
def holdsLater (condition : List Char → Bool) : List Char → Bool
  | [] => condition []
  | c :: rest => condition (c :: rest) || holdsLater condition rest

/-- A condition holds of a rest of the text after a slash, or of its end. -/
def holdsBelow (condition : List Char → Bool) : List Char → Bool
  | [] => condition []
  | c :: rest => (c == '/' && condition rest) || holdsBelow condition rest

/-- The pattern matches the characters. -/
def matchesChars : Pattern → List Char → Bool
  | [], text => text.isEmpty
  | .anyChars :: pattern, text => holdsLater (matchesChars pattern) text
  | .directories :: pattern, text =>
    matchesChars pattern text || holdsBelow (matchesChars pattern) text
  | _ :: _, [] => false
  | .char expected :: pattern, c :: text => c == expected && matchesChars pattern text
  | .anyChar :: pattern, _ :: text => matchesChars pattern text
  | .oneOf ranges :: pattern, c :: text =>
    ranges.any (·.contains c) && matchesChars pattern text
  | .noneOf ranges :: pattern, c :: text =>
    !ranges.any (·.contains c) && matchesChars pattern text

/-- The pattern matches the text. -/
def accepts (pattern : Pattern) (text : String) : Bool := matchesChars pattern text.toList

end Pattern

end Phrasebook.Glob
