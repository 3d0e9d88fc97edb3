/-!
# Positions in a text

An offset counts bytes of the encoded text; a position counts lines and columns from one.
`Position.between` counts a column for each character, `Position.betweenMixed` one for each unit of
16 bits.

Models the positions of unresolved phrases and of the errors of the readers.

Results:
* `byteLength_append`: offsets add up along a text.
* `splitAtOffset_append`: the parts of a text are found at the end of the first one.
* `append_splitAtOffset`: the parts at an offset are parts of the text.
-/

namespace Phrasebook.Text

/-- The number of bytes the characters take when encoded. -/
def byteLength : List Char → Nat
  | [] => 0
  | c :: rest => c.utf8Size + byteLength rest

@[simp] theorem byteLength_nil : byteLength [] = 0 := rfl

@[simp] theorem byteLength_cons (c : Char) (rest : List Char) :
    byteLength (c :: rest) = c.utf8Size + byteLength rest := rfl

@[simp] theorem byteLength_append (front back : List Char) :
    byteLength (front ++ back) = byteLength front + byteLength back := by
  induction front with
  | nil => simp
  | cons c rest ih => simp [ih, Nat.add_assoc]

/-- The characters before and after an offset. Past the end, all characters are before it; inside
a character, that character is after it. -/
def splitAtOffset : Nat → List Char → List Char × List Char
  | _, [] => ([], [])
  | offset, c :: rest =>
    if c.utf8Size ≤ offset then
      let (before, after) := splitAtOffset (offset - c.utf8Size) rest
      (c :: before, after)
    else ([], c :: rest)

theorem splitAtOffset_append (before after : List Char) :
    splitAtOffset (byteLength before) (before ++ after) = (before, after) := by
  induction before with
  | nil =>
    cases after with
    | nil => rfl
    | cons c rest =>
      have := Char.utf8Size_pos c
      rw [List.nil_append, byteLength_nil, splitAtOffset, if_neg (by omega)]
  | cons c rest ih =>
    rw [List.cons_append, byteLength_cons, splitAtOffset, if_pos (Nat.le_add_right _ _),
      Nat.add_sub_cancel_left, ih]

theorem append_splitAtOffset (offset : Nat) (text : List Char) :
    (splitAtOffset offset text).1 ++ (splitAtOffset offset text).2 = text := by
  induction text generalizing offset with
  | nil => rfl
  | cons c rest ih =>
    rw [splitAtOffset]
    split
    · exact congrArg (c :: ·) (ih _)
    · rfl

/-- A place in a text and the line it lies on. -/
structure Position where
  line : Nat
  column : Nat
  sourceLine : String
  deriving DecidableEq, Repr

/-- The characters after the last one that satisfies `isEnd`. -/
def lastLine (isEnd : Char → Bool) (text : List Char) : List Char :=
  (text.reverse.takeWhile (!isEnd ·)).reverse

/-- The first line of a text: up to a line feed, without a carriage return before it. -/
def firstLine (text : List Char) : List Char :=
  let line := text.takeWhile (· != '\n')
  if line.length < text.length ∧ line.getLast? = some '\r' then line.dropLast else line

/-- The position between two parts of a text whose lines end with a line feed. -/
def Position.between (before after : List Char) : Position where
  line := before.count '\n' + 1
  column := (lastLine (· == '\n') before).length + 1
  sourceLine := String.ofList (firstLine (lastLine (· == '\n') before ++ after))

/-- The number of line ends: line feeds, and carriage returns that no line feed follows. -/
def countLineEnds : List Char → Nat
  | [] => 0
  | '\r' :: '\n' :: rest => countLineEnds rest + 1
  | c :: rest => if c = '\n' ∨ c = '\r' then countLineEnds rest + 1 else countLineEnds rest

/-- The number of units of 16 bits that the characters take when encoded in such units. -/
def unitLength : List Char → Nat
  | [] => 0
  | c :: rest => (if c.toNat < 0x10000 then 1 else 2) + unitLength rest

/-- The position between two parts of a text whose lines end with a line feed or a carriage
return, with columns of 16 bits. The line shown runs to the next line feed. -/
def Position.betweenMixed (before after : List Char) : Position where
  line := countLineEnds before + 1
  column := unitLength (lastLine (fun c => c == '\n' || c == '\r') before) + 1
  sourceLine := String.ofList
    ((lastLine (fun c => c == '\n' || c == '\r') before ++ after).takeWhile (· != '\n'))

end Phrasebook.Text
