/-!
# Bytes as text

Bytes are read as UTF-8. `lenientText` puts a replacement character in place of every part that is
ill-formed; such a part is as long as the start of a character that it could have been.

Models how files and responses are read as text.
-/

namespace Phrasebook.Text

/-- The character in place of bytes that are no text. -/
def replacementChar : Char := Char.ofNat 0xFFFD

/-- A character of which some bytes were read. -/
structure PartialChar where
  /-- The bits read so far. -/
  bits : Nat
  /-- The number of bytes to come. -/
  missing : Nat
  /-- The bounds of the next byte. -/
  low : Nat
  high : Nat
  deriving DecidableEq, Repr

/-- What the first byte of a character tells. -/
inductive FirstByte where
  | whole (c : Char)
  | start (part : PartialChar)
  | wrong
  deriving DecidableEq, Repr

/-- Reads the first byte of a character. -/
def firstByte (byte : Nat) : FirstByte :=
  if byte < 0x80 then .whole (Char.ofNat byte)
  else if byte < 0xC2 then .wrong
  else if byte < 0xE0 then .start ⟨byte - 0xC0, 1, 0x80, 0xBF⟩
  else if byte < 0xF0 then
    .start ⟨byte - 0xE0, 2, if byte = 0xE0 then 0xA0 else 0x80, if byte = 0xED then 0x9F else 0xBF⟩
  else if byte < 0xF5 then
    .start ⟨byte - 0xF0, 3, if byte = 0xF0 then 0x90 else 0x80, if byte = 0xF4 then 0x8F else 0xBF⟩
  else .wrong

/-- The characters of bytes after a part of a character. -/
def lenientFrom : Option PartialChar → List UInt8 → List Char
  | none, [] => []
  | some _, [] => [replacementChar]
  | part?, byte :: rest =>
    match part?.filter fun part => part.low ≤ byte.toNat && byte.toNat ≤ part.high with
    | some part =>
      let bits := part.bits * 64 + (byte.toNat - 0x80)
      if part.missing ≤ 1 then Char.ofNat bits :: lenientFrom none rest
      else lenientFrom (some ⟨bits, part.missing - 1, 0x80, 0xBF⟩) rest
    | none =>
      (if part?.isSome then [replacementChar] else []) ++
        match firstByte byte.toNat with
        | .whole c => c :: lenientFrom none rest
        | .start part => lenientFrom (some part) rest
        | .wrong => replacementChar :: lenientFrom none rest

/-- Bytes as text, the ill-formed parts replaced. -/
def lenientText (bytes : List UInt8) : String := String.ofList (lenientFrom none bytes)

/-- Bytes as text, if none of them is ill-formed. -/
def strictText? (bytes : List UInt8) : Option String := String.fromUTF8? ⟨bytes.toArray⟩

end Phrasebook.Text
