import StructVault.Json.Reader

/-!
# Reading strings

The characters between two quotes, with their escapes resolved. Characters outside the basic
plane may be escaped as two surrogates, and surrogates stand nowhere else.

- `Reader.stringBody`: the text up to the closing quote.
- `Reader.skipString`: the same where nobody wants the text; surrogates then pass unpaired.
-/

namespace StructVault.Json

/-- The value of a hexadecimal digit of either case. -/
def hexValue? (c : Char) : Option Nat :=
  if '0' ≤ c && c ≤ '9' then some (c.toNat - '0'.toNat)
  else if 'a' ≤ c && c ≤ 'f' then some (c.toNat - 'a'.toNat + 10)
  else if 'A' ≤ c && c ≤ 'F' then some (c.toNat - 'A'.toNat + 10)
  else none

/-- The number that four hexadecimal digits at the front stand for. -/
def hexUnit? : List Char → Option Nat
  | a :: b :: c :: d :: _ => do
    return ((← hexValue? a) * 16 + (← hexValue? b)) * 256 + (← hexValue? c) * 16 + (← hexValue? d)
  | _ => none

/-- The bytes of a list of characters. -/
def byteCount (cs : List Char) : Nat := (cs.map (·.utf8Size)).foldr (· + ·) 0

/-- The character an escape of one letter stands for. -/
def simpleEscape? (c : Char) : Option Char :=
  match c with
  | '"' => some '"'
  | '\\' => some '\\'
  | '/' => some '/'
  | 'b' => some (Char.ofNat 8)
  | 'f' => some (Char.ofNat 12)
  | 'n' => some '\n'
  | 'r' => some '\r'
  | 't' => some '\t'
  | _ => none

/-- The four hexadecimal digits in front of `rest`, which starts behind `offset` bytes. Fewer
than four bytes are an early end; four bytes that are no digits are all taken. -/
def hexUnit (offset : Nat) (rest : List Char) : Except Problem Nat :=
  match hexUnit? rest with
  | some unit => .ok unit
  | none =>
    let left := byteCount (rest.take 4)
    if left < 4 then .error ⟨offset + left, .endInString⟩ else .error ⟨offset + 4, .invalidEscape⟩

/-- Whether a number is the first half of a surrogate pair. -/
def isHighSurrogate (unit : Nat) : Bool := 0xD800 ≤ unit && unit ≤ 0xDBFF

/-- Whether a number is the second half of a surrogate pair. -/
def isLowSurrogate (unit : Nat) : Bool := 0xDC00 ≤ unit && unit ≤ 0xDFFF

/-- The character that an escape behind its backslash and `u` stands for, and how many
characters it takes from `rest`, which starts behind `offset` bytes. -/
def unicodeEscape (offset : Nat) (rest : List Char) : Except Problem (Char × Nat) := do
  let unit ← hexUnit offset rest
  if isLowSurrogate unit then .error ⟨offset + 4, .loneSurrogate⟩
  else if !isHighSurrogate unit then .ok (Char.ofNat unit, 4)
  else
    match rest.drop 4 with
    | [] => .error ⟨offset + 4, .endInString⟩
    | '\\' :: [] => .error ⟨offset + 5, .endInString⟩
    | '\\' :: 'u' :: more =>
      let low ← hexUnit (offset + 6) more
      if isLowSurrogate low then
        .ok (Char.ofNat (0x10000 + (unit - 0xD800) * 0x400 + (low - 0xDC00)), 10)
      else .error ⟨offset + 10, .loneSurrogate⟩
    | '\\' :: _ => .error ⟨offset + 6, .unexpectedEndOfHexEscape⟩
    | _ => .error ⟨offset + 5, .unexpectedEndOfHexEscape⟩

/-- The escape behind a backslash: its character, and how many characters of `rest` it takes. -/
def escapeBody (offset : Nat) (rest : List Char) : Except Problem (Char × Nat) :=
  match rest with
  | [] => .error ⟨offset, .endInString⟩
  | 'u' :: more => (unicodeEscape (offset + 1) more).map fun (c, count) => (c, count + 1)
  | c :: _ =>
    match simpleEscape? c with
    | some meant => .ok (meant, 1)
    | none => .error ⟨offset + 1, .invalidEscape⟩

/-- The text up to the closing quote. `passing` characters of an escape are still to be taken,
and `read` holds the text so far, last character first. -/
def stringChars : List Char → (offset passing : Nat) → (read : List Char) →
    Except Problem (List Char × Input)
  | [], offset, _, _ => .error ⟨offset, .endInString⟩
  | c :: cs, offset, passing + 1, read => stringChars cs (offset + c.utf8Size) passing read
  | c :: cs, offset, 0, read =>
    if c == '"' then .ok (read.reverse, ⟨offset + 1, cs⟩)
    else if c == '\\' then
      match escapeBody (offset + 1) cs with
      | .error problem => .error problem
      | .ok (meant, count) => stringChars cs (offset + 1) count (meant :: read)
    else if c.toNat < 32 then .error ⟨offset + 1, .controlCharacter⟩
    else stringChars cs (offset + c.utf8Size) 0 (c :: read)

/-- How many characters an escape takes that nobody resolves. -/
def escapeLength (offset : Nat) (rest : List Char) : Except Problem Nat :=
  match rest with
  | [] => .error ⟨offset, .endInString⟩
  | 'u' :: more => (hexUnit (offset + 1) more).map fun _ => 5
  | c :: _ => if (simpleEscape? c).isSome then .ok 1 else .error ⟨offset + 1, .invalidEscape⟩

/-- Pass over a text up to the closing quote. A control character is refused where it stands. -/
def skipChars : List Char → (offset passing : Nat) → Except Problem Input
  | [], offset, _ => .error ⟨offset, .endInString⟩
  | c :: cs, offset, passing + 1 => skipChars cs (offset + c.utf8Size) passing
  | c :: cs, offset, 0 =>
    if c == '"' then .ok ⟨offset + 1, cs⟩
    else if c == '\\' then
      match escapeLength (offset + 1) cs with
      | .error problem => .error problem
      | .ok count => skipChars cs (offset + 1) count
    else if c.toNat < 32 then .error ⟨offset, .controlCharacter⟩
    else skipChars cs (offset + c.utf8Size) 0

namespace Reader

/-- The text up to the closing quote, which is taken too. -/
def stringBody : Reader String := fun input =>
  match stringChars input.rest input.offset 0 [] with
  | .ok (text, after) => .ok (String.ofList text) after
  | .error problem => .error problem input

/-- Pass over the text up to the closing quote, and that quote. -/
def skipString : Reader Unit := fun input =>
  match skipChars input.rest input.offset 0 with
  | .ok after => .ok () after
  | .error problem => .error problem input

end Reader

end StructVault.Json
