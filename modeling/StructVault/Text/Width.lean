import StructVault.Text.CharWidth

/-!
# The width of text

How many columns of a terminal a text takes. Most characters take the columns they take alone,
but some sequences are narrower or wider than their characters: emoji joined or modified into
one take two columns together, a selector behind a character makes it an emoji or a plain sign,
letters that are written as one sign take the columns of one, and a carriage return with its
line feed is one control.

- `Sign`, `Following`: what the character before a text has to know of that text.
- `alone`: the columns of a character that has no sequence with what follows.
- `sequence?`: the sequences, one step each.
- `width`: the columns of a text, taken from its end to its start, because the character that
  follows decides.
-/

namespace StructVault.Text

/-- Letters that can be the last of a sequence written as one sign, or the middle of one. -/
inductive Letter where
  /-- The Hebrew letter lamed, for the alef joined to it. -/
  | lamed
  /-- The Buginese letter ya, for the vowel joined to it. -/
  | ya
  /-- The Buginese vowel i with a ya joined to it, for the letter a. -/
  | yaWithVowel
  /-- A Tifinagh consonant, for another one joined to it. -/
  | tifinagh
  /-- A Tifinagh consonant with the joiner of that script. -/
  | tifinaghJoined
  /-- A Lisu tone letter that is written below another one. -/
  | lowTone
  /-- The Old Turkic letter i, for the letter op joined to it. -/
  | turkicI
  /-- A Khmer letter that is written below the letter before it. -/
  | khmer
  deriving DecidableEq, Repr

/-- What a text begins with, as far as the character before it can have a sequence with it. -/
inductive Sign where
  | plain
  | lineFeed
  | emoji
  /-- A skin tone. -/
  | modifier
  /-- One half of a flag. -/
  | half
  /-- Two halves of flags or more. -/
  | halves
  /-- A joiner and an emoji. -/
  | joined
  /-- A keycap, a joiner and an emoji. -/
  | joinedKeycap
  /-- Halves of flags, a joiner and an emoji: the first half, an even number of them, or an odd
  number from three on. -/
  | joinedHalf
  | joinedEven
  | joinedOdd
  /-- The end of a tag with so many letters of it, a joiner and an emoji. -/
  | tagLetters (count : Nat)
  /-- The same with so many digits in front of the letters. -/
  | tagDigits (count : Nat)
  /-- The Arabic letter alef. -/
  | alef
  /-- A letter, with a joiner in front of it or not. -/
  | letter (letter : Letter) (joined : Bool)
  /-- The Kirat Rai vowel e. -/
  | vowelE
  /-- The Kirat Rai vowel ai. -/
  | vowelAi
  deriving DecidableEq, Repr

/-- A character that changes how the one before it is shown. -/
inductive Selector where
  /-- As an emoji. -/
  | emoji
  /-- As a plain sign. -/
  | sign
  /-- As wide as an ideograph, if it is a quotation mark. -/
  | wideQuote
  deriving DecidableEq, Repr

/-- What is known of the text behind a character: a selector that stands right behind it, if one
does, and what follows. -/
structure Following where
  sign : Sign
  selector : Option Selector := none
  deriving DecidableEq, Repr

/-! ## Classes of characters -/

/-- The selector a character is. -/
def selector? (c : Char) : Option Selector :=
  if c.toNat == 0xFE0F then some .emoji
  else if c.toNat == 0xFE0E then some .sign
  else if c.toNat == 0xFE01 then some .wideQuote
  else none

/-- Whether a character with a selector behind it is shown as a plain sign of one column.
Ideographs in a square stay wide. -/
def narrows (c : Char) : Bool :=
  emojiForms.has c && emojiByDefault.has c && !(0x1F200 ≤ c.toNat && c.toNat < 0x1F300)

/-- The curved quotation marks. -/
def isCurvedQuote (c : Char) : Bool := [0x2018, 0x2019, 0x201C, 0x201D].contains c.toNat

/-- Whether a character is the zero-width joiner. -/
def isJoiner (c : Char) : Bool := c.toNat == 0x200D

/-- The Arabic letters that join with an alef behind them. -/
def isLam (c : Char) : Bool :=
  [0x644, 0x6B5, 0x6B6, 0x6B7, 0x6B8, 0x76A, 0x8A6, 0x8C7].contains c.toNat

/-- The forms of the Arabic letter alef. -/
def alefForms : CharSet := #[
  (0x622, 0x623), (0x625, 0x625), (0x627, 0x627), (0x671, 0x673), (0x675, 0x675),
  (0x773, 0x774), (0x870, 0x882)]

/-- Characters without a column that part a lam from the alef behind them (all that are not of
Joining_Type transparent). -/
def separating : CharSet := #[
  (0x605, 0x605), (0x890, 0x891), (0x8E2, 0x8E2), (0x9BE, 0x9BE), (0x9D7, 0x9D7), (0xB3E, 0xB3E),
  (0xB57, 0xB57), (0xBBE, 0xBBE), (0xBD7, 0xBD7), (0xCC0, 0xCC0), (0xCC2, 0xCC2), (0xCC7, 0xCC8),
  (0xCCA, 0xCCB), (0xCD5, 0xCD6), (0xD3E, 0xD3E), (0xD4E, 0xD4E), (0xD57, 0xD57), (0xDCF, 0xDCF),
  (0xDDF, 0xDDF), (0x1160, 0x11FF), (0x1715, 0x1715), (0x1734, 0x1734), (0x180E, 0x180E),
  (0x1B35, 0x1B35), (0x1B3B, 0x1B3B), (0x1B3D, 0x1B3D), (0x1B43, 0x1B44), (0x1BAA, 0x1BAA),
  (0x1BF2, 0x1BF3), (0x200C, 0x200D), (0x2065, 0x2069), (0x302E, 0x302F), (0x3164, 0x3164),
  (0xA8FA, 0xA8FA), (0xA953, 0xA953), (0xA9C0, 0xA9C0), (0xD7B0, 0xD7C6), (0xD7CB, 0xD7FB),
  (0xFFA0, 0xFFA0), (0xFFF0, 0xFFF8), (0x111C0, 0x111C0), (0x111C2, 0x111C3), (0x11235, 0x11235),
  (0x1133E, 0x1133E), (0x1134D, 0x1134D), (0x11357, 0x11357), (0x113B8, 0x113B8),
  (0x113C2, 0x113C2), (0x113C5, 0x113C5), (0x113C7, 0x113C9), (0x113CF, 0x113CF),
  (0x113D1, 0x113D1), (0x114B0, 0x114B0), (0x114BD, 0x114BD), (0x115AF, 0x115AF),
  (0x116B6, 0x116B6), (0x11930, 0x11930), (0x1193D, 0x1193D), (0x1193F, 0x1193F),
  (0x11941, 0x11941), (0x11A84, 0x11A89), (0x11D46, 0x11D46), (0x11F02, 0x11F02),
  (0x11F41, 0x11F41), (0x16FF0, 0x16FF1), (0x1D165, 0x1D166), (0x1D16D, 0x1D172),
  (0xE0000, 0xE0000), (0xE0002, 0xE001F), (0xE0080, 0xE00FF), (0xE01F0, 0xE0FFF)]

/-- Marks that do not part a letter from another one it joins with. -/
def unseen : CharSet := #[
  (0x34F, 0x34F), (0x17B4, 0x17B5), (0x180B, 0x180D), (0x180F, 0x180F), (0x200D, 0x200D),
  (0xFE00, 0xFE0F), (0xE0100, 0xE01EF)]

/-- The Khmer letters that have a form below another letter. -/
def khmerSubscripts : CharSet := #[
  (0x1780, 0x1782), (0x1784, 0x1787), (0x1789, 0x178C), (0x178E, 0x1793), (0x1795, 0x1798),
  (0x179B, 0x179D), (0x17A0, 0x17A0), (0x17A2, 0x17A2), (0x17A7, 0x17A7), (0x17AB, 0x17AC),
  (0x17AF, 0x17AF)]

/-- The Tifinagh consonants. -/
def isTifinagh (c : Char) : Bool := 0x2D31 ≤ c.toNat && c.toNat ≤ 0x2D65 || c.toNat == 0x2D6F

/-- The letter a character is, for sequences that end with it. -/
def letter? (c : Char) : Option Letter :=
  let code := c.toNat
  if code == 0x5DC then some .lamed
  else if code == 0x1A10 then some .ya
  else if isTifinagh c then some .tifinagh
  else if code == 0xA4FC || code == 0xA4FD then some .lowTone
  else if code == 0x10C03 then some .turkicI
  else if khmerSubscripts.has c then some .khmer
  else none

/-! ## Sequences -/

/-- What a character is to the text before it, where it has no sequence with what follows. -/
def signOf (c : Char) : Sign :=
  if c == '\n' then .lineFeed
  else if c.toNat ≤ 0xA0 then .plain
  else if isEmojiModifier c then .modifier
  else if isRegionalIndicator c then .half
  else if emojiByDefault.has c then .emoji
  else if alefForms.has c then .alef
  else if c.toNat == 0x16D67 then .vowelE
  else if c.toNat == 0x16D68 then .vowelAi
  else match letter? c with
    | some letter => .letter letter false
    | none => .plain

/-- The columns of a character that has no sequence with what follows, and what it is to the
text before it. -/
def alone (c : Char) : Int × Sign := (charWidth c, signOf c)

/-- The columns a character adds in front of a letter that it forms a sequence with. What was
counted for the letter is taken back where the two together take no more than one. -/
def letterSequence? (c : Char) (letter : Letter) (joined : Bool) : Option (Int × Sign) :=
  let code := c.toNat
  if isJoiner c then some (0, .letter letter true)
  else if unseen.has c then some (0, .letter letter joined)
  else match letter with
    | .lamed => if joined && code == 0x5D0 then some (0, .plain) else none
    | .ya => if joined && code == 0x1A17 then some (0, .letter .yaWithVowel false) else none
    | .yaWithVowel => if code == 0x1A15 then some (0, .plain) else none
    | .tifinagh =>
      if code == 0x2D7F then some (1, .letter .tifinaghJoined false)
      else if joined && isTifinagh c then some (0, .plain)
      else none
    | .tifinaghJoined => if isTifinagh c then some (-1, .plain) else none
    | .lowTone => if 0xA4F8 ≤ code && code ≤ 0xA4FB then some (0, .plain) else none
    | .turkicI => if joined && code == 0x10C32 then some (0, .plain) else none
    | .khmer => if code == 0x17D2 then some (-1, .plain) else none

/-- The columns a character adds in front of a joiner and an emoji. -/
def joinedSequence? (c : Char) : Option (Int × Sign) :=
  if c.toNat == 0x20E3 then some (0, .joinedKeycap)
  else if isRegionalIndicator c then some (1, .joinedHalf)
  else if isEmojiModifier c then some (0, .modifier)
  else if c.toNat == 0xE007F then some (0, .tagLetters 0)
  else if emojiByDefault.has c then some (0, .emoji)
  else none

/-- The columns a character adds in front of the rest of a tag: up to six letters, or three
digits and up to four letters, behind a black flag. -/
def tagSequence? (c : Char) (letters digits : Nat) : Option (Int × Sign) :=
  let isLetter := 0xE0061 ≤ c.toNat && c.toNat ≤ 0xE007A
  let isDigit := 0xE0030 ≤ c.toNat && c.toNat ≤ 0xE0039
  if digits == 0 && letters < 6 && isLetter then some (0, .tagLetters (letters + 1))
  else if letters ≤ 4 && digits < 3 && isDigit then some (0, .tagDigits (digits + 1))
  else if (if digits == 0 then 3 ≤ letters else digits == 3) && c.toNat == 0x1F3F4 then
    some (0, .emoji)
  else none

/-- The columns a character adds in front of a text with which it forms a sequence. -/
def sequence? (c : Char) : Sign → Option (Int × Sign)
  | .plain | .lineFeed | .joinedKeycap => none
  | .emoji => if isJoiner c then some (0, .joined) else none
  | .modifier =>
    if emojiBase.has c then some (0, .emoji)
    else if isJoiner c then some (0, .joined)
    else none
  | .half => if isRegionalIndicator c then some (1, .halves) else none
  | .halves =>
    if isRegionalIndicator c then some (1, .halves)
    else if isJoiner c then some (0, .joined)
    else none
  | .joined => joinedSequence? c
  | .joinedHalf => if isRegionalIndicator c then some (-1, .joinedEven) else none
  | .joinedEven =>
    if isRegionalIndicator c then some (3, .joinedOdd)
    else if isJoiner c then some (0, .joined)
    else none
  | .joinedOdd =>
    if isRegionalIndicator c then some (-1, .joinedEven)
    else if isJoiner c then some (0, .joined)
    else none
  | .tagLetters letters => tagSequence? c letters 0
  | .tagDigits digits => tagSequence? c 0 digits
  | .alef =>
    if isLam c then some (0, .plain)
    else if isZeroWidth c && !separating.has c then some (0, .alef)
    else none
  | .letter letter joined => letterSequence? c letter joined
  | .vowelE =>
    if c.toNat == 0x16D63 || c.toNat == 0x16D69 then some (0, .plain)
    else if c.toNat == 0x16D67 then some (0, .vowelAi)
    else if c.toNat == 0x16D68 then some (1, .vowelE)
    else none
  | .vowelAi => if c.toNat == 0x16D63 then some (0, .plain) else none

namespace Sign

/-- Whether a selector in front of the text leaves its sign as it is for the character before the
selector. -/
def outlives (sign : Sign) : Selector → Bool
  | .emoji => match sign with
    | .joined | .joinedKeycap | .alef | .letter .. => true
    | _ => false
  | .sign | .wideQuote => match sign with
    | .alef | .letter .. => true
    | _ => false

/-- Whether an emoji in front of the text is joined to it. -/
def isJoined : Sign → Bool
  | .joined | .joinedKeycap => true
  | _ => false

end Sign

namespace Following

/-- A selector is put in front of a text. -/
def select (following : Following) (selector : Selector) : Following where
  sign := if following.sign.outlives selector then following.sign else .plain
  selector := some selector

/-- What is left of a selector for emoji in front of which no emoji stands. -/
def unselect (following : Following) : Following :=
  if following.selector == some .emoji then
    { sign := if following.sign.isJoined then .plain else following.sign }
  else following

end Following

/-- The columns a character adds in front of what follows. -/
def widthBefore (c : Char) (following : Following) : Int × Following :=
  if following.selector == some .emoji && emojiForms.has c then
    (if following.sign.isJoined then 0 else 2, { sign := .emoji })
  else if c.toNat ≤ 0xA0 then
    if c == '\r' && following == { sign := .lineFeed } then (0, { sign := .plain })
    else (1, { sign := signOf c })
  else
    let following := following.unselect
    match selector? c with
    | some selector => (0, following.select selector)
    | none =>
      if following.selector == some .sign && narrows c then (1, { sign := .plain })
      else if following.selector == some .wideQuote && isCurvedQuote c then (2, { sign := .plain })
      else
        let (columns, sign) := (sequence? c following.sign).getD (alone c)
        (columns, { sign })

/-- The columns of a list of characters. -/
def widthOf (cs : List Char) : Nat :=
  (cs.foldr (fun c (sum, following) =>
    let (columns, before) := widthBefore c following
    (sum + columns, before)) ((0 : Int), { sign := .plain })).1.toNat

/-- The columns of a text. -/
def width (text : String) : Nat := widthOf text.toList

end StructVault.Text
