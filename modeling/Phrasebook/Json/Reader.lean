import Phrasebook.Json.Numeral
import Phrasebook.Literal
import Phrasebook.Text.Position

/-!
# Reading JSON

A reader reads a value of one shape from the front of a text. Reading stops at the first defect in
the order of the text: a text that is no JSON, JSON of another shape, or an end that comes too
early. A value of the wrong shape is itself read, if it is no array or object, before it counts as
one, so a defect inside it comes first.

Models the reader of the JSON library, with its error texts and positions.
-/

namespace Phrasebook.Json

open Phrasebook.Text

/-- Why a text could not be read. -/
inductive Defect where
  /-- The text is no JSON. -/
  | malformed
  /-- The text is JSON of another shape. -/
  | mismatched
  /-- The text ends too early. -/
  | truncated
  deriving DecidableEq, Repr

/-- Reads from the front of a text. -/
abbrev Reader := StateT (List Char) (Except Defect)

namespace Reader

variable {α β σ : Type}

/-- White space of JSON. -/
def isBlank (c : Char) : Bool := c == ' ' || c == '\n' || c == '\t' || c == '\r'

/-- The next character after white space. -/
def peek : Reader (Option Char) := do
  let rest := (← get).dropWhile isBlank
  set rest
  pure rest.head?

/-- Passes a character. -/
def skip : Reader Unit := modify List.tail

/-- The next character after white space, which must be there. -/
def peekOr (defect : Defect) : Reader Char := do
  match ← peek with
  | some c => pure c
  | none => throw defect

/-- Reads the rest of a word. -/
def word : List Char → Reader Unit
  | [] => pure ()
  | expected :: more => do
    match ← get with
    | [] => throw .truncated
    | c :: rest =>
      if c = expected then
        set rest
        word more
      else throw .malformed

/-- Reads by a step at most `fuel` times, until it gives a result. -/
def iterateFor (step : σ → Reader (σ ⊕ α)) : Nat → σ → Reader α
  | 0, _ => throw .malformed
  | fuel + 1, state => do
    match ← step state with
    | .inl state => iterateFor step fuel state
    | .inr value => pure value

/-- Reads by a step until it gives a result. Each step but the last passes a character, so the
number of characters bounds the steps. -/
def iterate (step : σ → Reader (σ ⊕ α)) (state : σ) : Reader α := do
  iterateFor step ((← get).length + 2) state

/-! ## Texts -/

/-- Where the reading of a quoted text stands. -/
inductive TextState where
  | plain
  | escape
  /-- Inside a number of `left` more hexadecimal digits, after a high surrogate or not. -/
  | digits (left value : Nat) (high? : Option Nat)
  /-- After a high surrogate. -/
  | paired (high : Nat)
  /-- After a high surrogate and a backslash. -/
  | pairedEscape (high : Nat)

/-- The character that a letter after a backslash stands for. -/
def escaped? : Char → Option Char
  | '"' => some '"'
  | '\\' => some '\\'
  | '/' => some '/'
  | 'b' => some '\x08'
  | 'f' => some '\x0c'
  | 'n' => some '\n'
  | 'r' => some '\r'
  | 't' => some '\t'
  | _ => none

/-- The quoted text up to its closing quote, and the rest. Surrogates have to come in pairs; when
the text is only passed over, they may stand alone. -/
def textFrom (passing : Bool) : TextState → List Char → Except Defect (List Char × List Char)
  | _, [] => .error .truncated
  | .plain, c :: rest =>
    if c = '"' then .ok ([], rest)
    else if c = '\\' then textFrom passing .escape rest
    else if c.toNat < 32 then .error .malformed
    else (textFrom passing .plain rest).map fun (text, after) => (c :: text, after)
  | .escape, c :: rest =>
    if c = 'u' then
      if byteLength rest < 4 then .error .truncated
      else textFrom passing (.digits 4 0 none) rest
    else
      match escaped? c with
      | some d => (textFrom passing .plain rest).map fun (text, after) => (d :: text, after)
      | none => .error .malformed
  | .digits left value high?, c :: rest =>
    match Literal.hexDigit? c with
    | none => .error .malformed
    | some digit =>
      let value := value * 16 + digit
      if left > 1 then textFrom passing (.digits (left - 1) value high?) rest
      else if passing then textFrom passing .plain rest
      else
        match high? with
        | some high =>
          if 0xDC00 ≤ value ∧ value < 0xE000 then
            (textFrom passing .plain rest).map fun (text, after) =>
              (Char.ofNat (0x10000 + (high - 0xD800) * 0x400 + (value - 0xDC00)) :: text, after)
          else .error .malformed
        | none =>
          if 0xDC00 ≤ value ∧ value < 0xE000 then .error .malformed
          else if 0xD800 ≤ value ∧ value < 0xDC00 then textFrom passing (.paired value) rest
          else
            (textFrom passing .plain rest).map fun (text, after) =>
              (Char.ofNat value :: text, after)
  | .paired high, c :: rest =>
    if c = '\\' then textFrom passing (.pairedEscape high) rest else .error .malformed
  | .pairedEscape high, c :: rest =>
    if c = 'u' then
      if byteLength rest < 4 then .error .truncated
      else textFrom passing (.digits 4 0 (some high)) rest
    else .error .malformed

/-- The rest of a text after its opening quote. -/
def textBody (passing : Bool) : Reader String := do
  match textFrom passing .plain (← get) with
  | .ok (text, rest) => do
    set rest
    pure (String.ofList text)
  | .error defect => throw defect

/-! ## Numbers -/

/-- Digits, of which there must be one. A number that is passed over and ends too early counts as
malformed. -/
def digits (passing : Bool) : Reader (List Char) := do
  let text ← get
  let found := text.takeWhile Char.isDigit
  set (text.drop found.length)
  if found.isEmpty then throw (if text.isEmpty && !passing then .truncated else .malformed)
  pure found

/-- The digits before a point; more than one do not begin with a zero. -/
def wholeDigits (passing : Bool) : Reader (List Char) := do
  let found ← digits passing
  if found.head? == some '0' && found.length > 1 then throw .malformed
  pure found

/-- A number after its sign. -/
def unsignedNumeral (passing negative : Bool) : Reader Numeral := do
  let whole ← wholeDigits passing
  let fraction ←
    if (← get).head? == some '.' then do
      skip
      digits passing
    else pure []
  let marked := (← get).head? == some 'e' || (← get).head? == some 'E'
  let exponent? ←
    if marked then do
      skip
      let sign := (← get).head?
      if sign == some '+' || sign == some '-' then skip
      let value := digitsValue (← digits passing)
      pure (some (if sign == some '-' then -Int.ofNat value else Int.ofNat value))
    else pure none
  pure { negative, whole, fraction, exponent? }

/-- A number. -/
def numeral (passing : Bool) : Reader Numeral := do
  if (← get).head? == some '-' then
    skip
    unsignedNumeral passing true
  else unsignedNumeral passing false

/-- A number in range. -/
def numeralInRange : Reader Numeral := do
  let number ← numeral false
  if number.isHuge then throw .malformed
  pure number

/-! ## Shapes -/

/-- Reads a value of the wrong shape. -/
def mismatch : Reader α := do
  let c ← peekOr .malformed
  if c = 'n' then
    skip
    word ['u', 'l', 'l']
  else if c = 't' then
    skip
    word ['r', 'u', 'e']
  else if c = 'f' then
    skip
    word ['a', 'l', 's', 'e']
  else if c = '-' ∨ c.isDigit then discard numeralInRange
  else if c = '"' then
    skip
    discard (textBody false)
  else if c = '[' ∨ c = '{' then pure ()
  else throw .malformed
  throw .mismatched

/-- A text. -/
def text : Reader String := do
  if (← peekOr .truncated) = '"' then
    skip
    textBody false
  else mismatch

/-- A truth value. -/
def bool : Reader Bool := do
  let c ← peekOr .truncated
  if c = 't' then
    skip
    word ['r', 'u', 'e']
    pure true
  else if c = 'f' then
    skip
    word ['a', 'l', 's', 'e']
    pure false
  else mismatch

/-- A natural number of 64 bits. -/
def natural : Reader Nat := do
  let c ← peekOr .truncated
  if c = '-' ∨ c.isDigit then
    match (← numeralInRange).natural? with
    | some value => pure value
    | none => throw .mismatched
  else mismatch

/-- A value or `null`. -/
def optional (reader : Reader α) : Reader (Option α) := do
  if (← peek) == some 'n' then
    skip
    word ['u', 'l', 'l']
    pure none
  else pure (some (← reader))

/-- `null`. -/
def null : Reader Unit := do
  if (← peekOr .truncated) = 'n' then
    skip
    word ['u', 'l', 'l']
  else mismatch

/-- Another item follows in an array, whose opening bracket or earlier item was passed. -/
def moreItems (first : Bool) : Reader Bool := do
  let c ← peekOr .truncated
  if c = ']' then pure false
  else if first then pure true
  else if c = ',' then
    skip
    if (← peekOr .truncated) = ']' then throw .malformed
    pure true
  else throw .malformed

/-- The closing bracket of an array. -/
def closeArray : Reader Unit := do
  if (← peekOr .truncated) = ']' then skip else throw .malformed

/-- The items of an array. -/
def array (item : Reader α) : Reader (List α) := do
  if (← peekOr .truncated) = '[' then
    skip
    let items ← iterate (fun (found : List α) => do
      if ← moreItems found.isEmpty then pure (.inl (found ++ [← item]))
      else pure (.inr found)) []
    closeArray
    pure items
  else mismatch

/-- The next key of an object, whose opening brace or earlier entry was passed. -/
def nextKey (first : Bool) : Reader (Option String) := do
  let c ← peekOr .truncated
  if c = '}' then pure none
  else if first then
    if c = '"' then
      skip
      pure (some (← textBody false))
    else throw .malformed
  else if c = ',' then
    skip
    if (← peekOr .truncated) = '"' then
      skip
      pure (some (← textBody false))
    else throw .malformed
  else throw .malformed

/-- The colon after a key. -/
def colon : Reader Unit := do
  if (← peekOr .truncated) = ':' then skip else throw .malformed

/-- The closing brace of an object. -/
def closeObject : Reader Unit := do
  if (← peekOr .truncated) = '}' then skip else throw .malformed

/-- The entries of an object after its opening brace, with its closing brace. What is read so far
goes from entry to entry; an entry is read from the colon on. -/
def entries (entry : String → σ → Reader σ) (state : σ) : Reader σ := do
  let state ← iterate (fun ((state, first) : σ × Bool) => do
    match ← nextKey first with
    | none => pure (.inr state)
    | some key => do
      let state ← entry key state
      pure (.inl (state, false))) (state, true)
  closeObject
  pure state

/-- The entries of an object. -/
def object (entry : String → σ → Reader σ) (state : σ) : Reader σ := do
  if (← peekOr .truncated) = '{' then
    skip
    entries entry state
  else mismatch

/-! ## Values that are passed over -/

/-- A simple value, passed over. An array or an object is entered; the result says which. -/
def enterValue : Reader (Option Char) := do
  let c ← peekOr .truncated
  if c = 'n' then
    skip
    word ['u', 'l', 'l']
    pure none
  else if c = 't' then
    skip
    word ['r', 'u', 'e']
    pure none
  else if c = 'f' then
    skip
    word ['a', 'l', 's', 'e']
    pure none
  else if c = '-' ∨ c.isDigit then
    discard (numeral true)
    pure none
  else if c = '"' then
    skip
    discard (textBody true)
    pure none
  else if c = '[' ∨ c = '{' then
    skip
    pure (some c)
  else throw .malformed

/-- A key that is passed over, with its colon. -/
def passKey : Reader Unit := do
  if (← peekOr .truncated) = '"' then
    skip
    discard (textBody true)
    colon
  else throw .malformed

/-- Passes over a value. The state holds the brackets that are open, innermost first, and whether
a value just ended in the innermost. -/
def passValue : Reader Unit := do
  match ← enterValue with
  | none => pure ()
  | some frame =>
    iterate (fun ((frames, ended) : List Char × Bool) => do
      match frames with
      | [] => pure (.inr ())
      | frame :: outer =>
        let c ← peekOr .truncated
        if c = (if frame = '[' then ']' else '}') then
          skip
          pure (.inl (outer, true))
        else
          if ended then
            if c = ',' then skip else throw .malformed
          if frame = '{' then passKey
          match ← enterValue with
          | none => pure (.inl (frames, true))
          | some inner => pure (.inl (inner :: frames, false))) ([frame], false)

/-! ## Values with named fields -/

/-- The fields of a value, given by name in an object. A field comes once; other names are passed
over. -/
def namedFields {φ : Type} [DecidableEq φ] (field? : String → Option φ)
    (read : φ → σ → Reader σ) (state : σ) : Reader σ := do
  let (state, _) ← entries (fun key ((state, found) : σ × List φ) =>
    match field? key with
    | some field => do
      if found.contains field then throw .mismatched
      colon
      pure (← read field state, field :: found)
    | none => do
      colon
      passValue
      pure (state, found)) (state, [])
  pure state

/-- The fields of a value, given in their order in an array. The last ones may be missing. -/
def orderedFields {φ : Type} (read : φ → σ → Reader σ) : List φ → Bool → σ → Reader σ
  | [], _, state => pure state
  | field :: rest, first, state => do
    if ← moreItems first then orderedFields read rest false (← read field state)
    else pure state

/-- A value with fields, as an object or as an array. -/
def fields {φ : Type} [DecidableEq φ] (order : List φ) (field? : String → Option φ)
    (read : φ → σ → Reader σ) (state : σ) : Reader σ := do
  match ← peekOr .truncated with
  | '{' => do
    skip
    namedFields field? read state
  | '[' => do
    skip
    let state ← orderedFields read order true state
    closeArray
    pure state
  | _ => mismatch

/-- A value that a name stands for, alone or as the only key of an object with `null`. -/
def named (named? : String → Option α) : Reader α := do
  match ← peekOr .truncated with
  | '"' => do
    match named? (← text) with
    | some value => pure value
    | none => throw .mismatched
  | '{' => do
    skip
    match named? (← text) with
    | some value => do
      colon
      null
      closeObject
      pure value
    | none => throw .mismatched
  | _ => throw .malformed

/-! ## Whole texts -/

/-- Reads a whole text. -/
def run (reader : Reader α) (source : String) : Except Defect α := do
  let (value, rest) ← StateT.run reader source.toList
  if rest.all isBlank then pure value else throw .malformed

end Reader

end Phrasebook.Json
