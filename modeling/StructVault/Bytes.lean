/-!
# Numbers and texts as bytes

Numbers of a fixed width are stored with their lowest byte first.

- `LittleEndian.encode width n`: the `width` lowest bytes of `n`, lowest first.
- `LittleEndian.decode`: the number a list of bytes stands for.

Text is stored in UTF-8. `Text.encode` gives the bytes of a text and `Text.decode` refuses
every byte string that is not the encoding of one, so the two are inverse to each other
(`decode_encode`, `encode_of_decode`).
-/

namespace StructVault

/-- A string of bytes. -/
abbrev Bytes := List UInt8

/-! ## Numbers -/

namespace LittleEndian

/-- The `width` lowest bytes of a number, lowest first. -/
def encode : Nat → Nat → Bytes
  | 0, _ => []
  | width + 1, n => UInt8.ofNat n :: encode width (n / 256)

/-- The number a byte string stands for, its lowest byte first. -/
def decode : Bytes → Nat
  | [] => 0
  | b :: bs => b.toNat + 256 * decode bs

@[simp] theorem length_encode (width n : Nat) : (encode width n).length = width := by
  induction width generalizing n with
  | zero => rfl
  | succ width ih => simp [encode, ih]

end LittleEndian

/-! ## Texts -/

namespace Text

/-- The UTF-8 bytes of a text. -/
def encode (text : String) : Bytes := text.toUTF8.data.toList

/-- The text whose UTF-8 bytes these are, if there is one. -/
def decode (bytes : Bytes) : Option String := String.fromUTF8? ⟨bytes.toArray⟩

@[simp] theorem length_encode (text : String) : (encode text).length = text.utf8ByteSize := by
  simp only [encode, Array.length_toList]
  rfl

/-- The bytes of a text are read as that text. -/
@[simp] theorem decode_encode (text : String) : decode (encode text) = some text := by
  have same : (⟨text.toUTF8.data.toList.toArray⟩ : ByteArray) = text.toUTF8 := by simp
  unfold decode encode String.fromUTF8?
  rw [same]
  split
  · rfl
  · rename_i invalid
    exact absurd (by simpa using text.isValidUTF8) invalid

/-- Bytes that can be read as a text are the bytes of that text. -/
theorem encode_of_decode {bytes : Bytes} {text : String} (h : decode bytes = some text) :
    encode text = bytes := by
  unfold decode String.fromUTF8? at h
  split at h
  · rw [← Option.some.inj h]
    simp [encode, String.fromUTF8, String.toUTF8]
  · simp at h

end Text

end StructVault
