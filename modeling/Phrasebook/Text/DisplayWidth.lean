import Phrasebook.Text.CharWidth
import Phrasebook.Text.Emoji

/-!
# Columns a text takes on a terminal

A text is as wide as its characters, except where some of them are drawn as one sign: an emoji
with its selector, skin tone or joined emoji, a flag, a line end of two characters, and the
ligatures of single scripts. The text is read from its end: every character is given what the
characters on its right have begun, so that the first character of a sequence knows whether the
sequence is complete.

Models the width by which a report places its caret.
-/

namespace Phrasebook.Text

/-- What the characters on the right have begun and the character on their left may complete. -/
inductive Sequel where
  /-- Nothing. -/
  | nothing
  /-- A line feed, which a carriage return completes. -/
  | lineFeed
  /-- A skin tone. -/
  | skinTone
  /-- One letter of a flag. -/
  | flagLetter
  /-- Two or more letters of flags. -/
  | flagLetters
  /-- An emoji. -/
  | emoji
  /-- A joiner and an emoji: an emoji before them adds no columns. -/
  | joined
  /-- A key cap joined to an emoji. -/
  | joinedKeycap
  /-- One letter of a flag joined to an emoji. -/
  | joinedFlagLetter
  /-- Whole flags joined to an emoji. -/
  | joinedFlags
  /-- A letter and whole flags joined to an emoji. -/
  | joinedFlagsLetter
  /-- The tags of a regional flag joined to an emoji: the letters and then the digits so far. -/
  | joinedTags (letters digits : Nat)
  /-- An Arabic alef, which joins a lam. -/
  | alef
  /-- A Hebrew lamed, with or without a joiner. -/
  | lamed (joiner : Bool)
  /-- A Buginese ya, with or without a joiner. -/
  | ya (joiner : Bool)
  /-- The Buginese vowel i, a joiner and a ya. -/
  | vowelAndYa
  /-- A Tifinagh consonant, with or without a joiner. -/
  | consonant (joiner : Bool)
  /-- The Tifinagh consonant joiner and a consonant. -/
  | joinedConsonant
  /-- The second half of a Lisu tone. -/
  | toneEnd
  /-- The Old Turkic letter i, with or without a joiner. -/
  | orkhonI (joiner : Bool)
  /-- A Khmer letter that is written below. -/
  | coengLetter
  /-- The Kirat Rai vowel sign e. -/
  | vowelE
  /-- The Kirat Rai vowel sign ai. -/
  | vowelAI
  deriving DecidableEq

namespace Sequel

/-- The sequel belongs to a ligature of letters, into which selectors may be put. -/
def isLetter : Sequel → Bool
  | alef | lamed _ | ya _ | vowelAndYa | consonant _ | joinedConsonant | toneEnd | orkhonI _
  | coengLetter => true
  | _ => false

/-- A joiner before the sequel does not end it. -/
def isJoinable (sequel : Sequel) : Bool :=
  sequel.isLetter && sequel != alef

/-- An emoji before the sequel is joined to it. -/
def isJoined : Sequel → Bool
  | joined | joinedKeycap => true
  | _ => false

/-- The sequel after a joiner is put before it. -/
def withJoiner : Sequel → Sequel
  | lamed _ => lamed true
  | ya _ => ya true
  | consonant _ => consonant true
  | orkhonI _ => orkhonI true
  | sequel => sequel

end Sequel

/-- A request of a character to the one before it. -/
inductive Selector where
  /-- To be shown as a picture. -/
  | emoji
  /-- To be shown as text. -/
  | text
  /-- To be shown with the width of an ideograph. -/
  | wide
  deriving DecidableEq

/-- The request a character makes. -/
def Selector.ofChar? (c : Char) : Option Selector :=
  match c.toNat with
  | 0xFE0F => some .emoji
  | 0xFE0E => some .text
  | 0xFE01 => some .wide
  | _ => none

/-- What follows a character: a request at once, and what stands behind that. -/
structure Following where
  /-- The request to the character. -/
  selector : Option Selector
  /-- What the characters behind have begun. -/
  sequel : Sequel
  deriving DecidableEq

namespace Following

/-- Nothing of note follows. -/
def nothing : Following := ⟨none, .nothing⟩

/-- What still stands once the request was not met: the letters of a ligature. -/
def unmet (following : Following) : Sequel :=
  if following.selector.isNone || following.sequel.isLetter then following.sequel else .nothing

/-- What follows after a request is put before it. -/
def select (following : Following) (selector : Selector) : Following :=
  let keeps := following.unmet.isLetter || (following.unmet.isJoined && selector == .emoji)
  ⟨some selector, if keeps then following.unmet else .nothing⟩

end Following

/-- A quotation mark that can be as wide as an ideograph. -/
def isWidenedQuote (c : Char) : Bool :=
  [0x2018, 0x2019, 0x201C, 0x201D].contains c.toNat

/-- Invisible marks that may stand inside a ligature. -/
def isLigatureMark (c : Char) : Bool :=
  CodeRanges.has [(0x34F, 0x34F), (0x17B4, 0x17B5), (0x180B, 0x180D), (0x180F, 0x180F),
    (0xFE00, 0xFE0F), (0xE0100, 0xE01EF)] c.toNat

/-- An Arabic alef in one of its forms. -/
def isAlef (c : Char) : Bool :=
  CodeRanges.has [(0x622, 0x623), (0x625, 0x625), (0x627, 0x627), (0x671, 0x673), (0x675, 0x675),
    (0x773, 0x774), (0x870, 0x882)] c.toNat

/-- An Arabic lam in one of its forms. -/
def isLam (c : Char) : Bool :=
  CodeRanges.has [(0x644, 0x644), (0x6B5, 0x6B8), (0x76A, 0x76A), (0x8A6, 0x8A6),
    (0x8C7, 0x8C7)] c.toNat

/-- A Khmer letter that is written below the one before a coeng sign. -/
def isCoengLetter (c : Char) : Bool :=
  CodeRanges.has [(0x1780, 0x1782), (0x1784, 0x1787), (0x1789, 0x178C), (0x178E, 0x1793),
    (0x1795, 0x1798), (0x179B, 0x179D), (0x17A0, 0x17A0), (0x17A2, 0x17A2), (0x17A7, 0x17A7),
    (0x17AB, 0x17AC), (0x17AF, 0x17AF)] c.toNat

/-- A Tifinagh consonant. -/
def isTifinaghConsonant (c : Char) : Bool :=
  CodeRanges.has [(0x2D31, 0x2D65), (0x2D6F, 0x2D6F)] c.toNat

/-- A small letter among the tags of a flag. -/
def isTagLetter (c : Char) : Bool :=
  0xE0061 ≤ c.toNat && c.toNat ≤ 0xE007A

/-- A digit among the tags of a flag. -/
def isTagDigit (c : Char) : Bool :=
  0xE0030 ≤ c.toNat && c.toNat ≤ 0xE0039

/-- What a character begins when it continues nothing on its right. -/
def Sequel.ofChar (c : Char) : Sequel :=
  if isAlef c then .alef
  else if isCoengLetter c then .coengLetter
  else if isTifinaghConsonant c then .consonant false
  else if isRegionalIndicator c then .flagLetter
  else if isEmojiModifier c then .skinTone
  else if emojiPresentationRanges.has c.toNat then .emoji
  else
    match c.toNat with
    | 0x5DC => .lamed false
    | 0x1A10 => .ya false
    | 0xA4FC | 0xA4FD => .toneEnd
    | 0x10C03 => .orkhonI false
    | 0x16D67 => .vowelE
    | 0x16D68 => .vowelAI
    | _ => .nothing

/-- A character that continues a sequel: the columns it adds, and what then stands. A negative
count takes back columns of the characters on the right. -/
def Sequel.continued? (sequel : Sequel) (c : Char) : Option (Int × Sequel) :=
  match sequel with
  | .alef =>
    if isLam c then some (0, .nothing) else if joinsThrough c then some (0, .alef) else none
  | .lamed true => if c.toNat = 0x5D0 then some (0, .nothing) else none
  | .coengLetter => if c.toNat = 0x17D2 then some (-1, .nothing) else none
  | .ya true => if c.toNat = 0x1A17 then some (0, .vowelAndYa) else none
  | .vowelAndYa => if c.toNat = 0x1A15 then some (0, .nothing) else none
  | .consonant joiner =>
    if c.toNat = 0x2D7F then some (1, .joinedConsonant)
    else if joiner ∧ isTifinaghConsonant c = true then some (0, .nothing)
    else none
  | .joinedConsonant => if isTifinaghConsonant c then some (-1, .nothing) else none
  | .toneEnd => if 0xA4F8 ≤ c.toNat ∧ c.toNat ≤ 0xA4FB then some (0, .nothing) else none
  | .orkhonI true => if c.toNat = 0x10C32 then some (0, .nothing) else none
  | .skinTone =>
    if emojiModifierBaseRanges.has c.toNat then some (0, .emoji)
    else if c.toNat = 0x200D then some (0, .joined)
    else none
  | .flagLetter => if isRegionalIndicator c then some (1, .flagLetters) else none
  | .flagLetters =>
    if isRegionalIndicator c then some (1, .flagLetters)
    else if c.toNat = 0x200D then some (0, .joined)
    else none
  | .emoji => if c.toNat = 0x200D then some (0, .joined) else none
  | .joined =>
    if c.toNat = 0x20E3 then some (0, .joinedKeycap)
    else if isRegionalIndicator c then some (1, .joinedFlagLetter)
    else if isEmojiModifier c then some (0, .skinTone)
    else if c.toNat = 0xE007F then some (0, .joinedTags 0 0)
    else if emojiPresentationRanges.has c.toNat then some (0, .emoji)
    else none
  | .joinedFlagLetter => if isRegionalIndicator c then some (-1, .joinedFlags) else none
  | .joinedFlags =>
    if isRegionalIndicator c then some (3, .joinedFlagsLetter)
    else if c.toNat = 0x200D then some (0, .joined)
    else none
  | .joinedFlagsLetter =>
    if isRegionalIndicator c then some (-1, .joinedFlags)
    else if c.toNat = 0x200D then some (0, .joined)
    else none
  | .joinedTags letters digits =>
    if isTagLetter c ∧ digits = 0 ∧ letters < 6 then some (0, .joinedTags (letters + 1) 0)
    else if isTagDigit c ∧ letters ≤ 4 ∧ digits < 3 then some (0, .joinedTags letters (digits + 1))
    else if c.toNat = 0x1F3F4 ∧ (digits = 3 ∨ (digits = 0 ∧ 3 ≤ letters)) then some (0, .emoji)
    else none
  | .vowelE =>
    match c.toNat with
    | 0x16D63 | 0x16D69 => some (0, .nothing)
    | 0x16D67 => some (0, .vowelAI)
    | 0x16D68 => some (1, .vowelE)
    | _ => none
  | .vowelAI => if c.toNat = 0x16D63 then some (0, .nothing) else none
  | _ => none

/-- The columns a character adds to what follows it, and what follows the character before it. -/
def prepended (c : Char) (following : Following) : Int × Following :=
  let (width, sequel) : Int × Sequel :=
    match following.unmet.continued? c with
    | some result => result
    | none => (charWidth c, .ofChar c)
  if following.selector = some .emoji ∧ emojiVariationRanges.has c.toNat = true then
    (if following.sequel.isJoined then 0 else 2, ⟨none, .emoji⟩)
  else if c = '\n' then (1, ⟨none, .lineFeed⟩)
  else if c = '\r' ∧ following.unmet = .lineFeed then (0, .nothing)
  else if c.toNat ≤ 0xA0 then (1, .nothing)
  else
    match Selector.ofChar? c with
    | some selector => (0, following.select selector)
    | none =>
      if following.selector = some .text ∧ narrowsAsText c = true then (1, .nothing)
      else if following.selector = some .wide ∧ isWidenedQuote c = true then (2, .nothing)
      else if following.unmet.isJoinable ∧ c.toNat = 0x200D then
        (0, ⟨none, following.unmet.withJoiner⟩)
      else if following.unmet.isJoinable ∧ isLigatureMark c = true then
        (0, ⟨none, following.unmet⟩)
      else (width, ⟨none, sequel⟩)

/-- The columns a text takes. -/
def displayWidth (text : String) : Nat :=
  (text.toList.foldr (fun c (columns, following) =>
    let (width, before) := prepended c following
    (columns + width, before)) ((0 : Int), Following.nothing)).1.toNat

end Phrasebook.Text
