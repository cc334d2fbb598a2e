import StructVault.Proofs.Bytes.LittleEndian
import StructVault.Proofs.Steps
import StructVault.Snapshot.Decode
import StructVault.Snapshot.Encode

/-!
# Readers and written forms

A reader of the snapshot format does two things at once: it recognises the bytes of a value and
it leaves everything behind them alone. `Reader.Reads reader form` says both for a relation
`form` between values and the bytes they are written as:

- `accepts`: in front of a written form, whatever follows, the reader gives the value and stops
  behind the form;
- `takes`: whenever the reader gives a value, the bytes it took are a written form of it.

The two directions compose (`Reads.pure`, `Reads.bind`, `Reads.replicate`), so the readers of
records can be related to their encoders field by field. The fields are `reads_word`, `reads_size`
and `reads_text`; each has a single written form, which is what makes the whole format canonical.
-/

namespace StructVault.Snapshot

open Steps

/-! ## What encoders write -/

theorem encodeCount_eq_ok {field : Field} {length : Nat} {bytes : Bytes} :
    encodeCount field length = .ok bytes ↔
      length < 2 ^ 32 ∧ bytes = LittleEndian.encode 4 length := by
  unfold encodeCount
  split
  · next hlt =>
    constructor
    · intro h
      cases h
      exact ⟨hlt, rfl⟩
    · rintro ⟨-, rfl⟩
      rfl
  · next hge =>
    constructor
    · intro h
      cases h
    · rintro ⟨hlt, -⟩
      exact absurd hlt hge

theorem encodeText_eq_ok {field : Field} {text : String} {bytes : Bytes} :
    encodeText field text = .ok bytes ↔ text.utf8ByteSize < 2 ^ 32
      ∧ bytes = LittleEndian.encode 4 text.utf8ByteSize ++ Text.encode text := by
  simp only [encodeText, attempt_bind_eq_ok, encodeCount_eq_ok, Except.ok.injEq]
  constructor
  · rintro ⟨_, ⟨hlt, rfl⟩, rfl⟩
    exact ⟨hlt, rfl⟩
  · rintro ⟨hlt, rfl⟩
    exact ⟨_, ⟨hlt, rfl⟩, rfl⟩

theorem encodeAll_cons_eq_ok {α : Type} {encodeOne : α → Except Error Bytes} {first : α}
    {rest : List α} {bytes : Bytes} : encodeAll encodeOne (first :: rest) = .ok bytes ↔
      ∃ front back, encodeOne first = .ok front ∧ encodeAll encodeOne rest = .ok back
        ∧ bytes = front ++ back := by
  simp only [encodeAll, attempt_bind_eq_ok, Except.ok.injEq]
  constructor
  · rintro ⟨front, hfront, back, hback, rfl⟩
    exact ⟨front, back, hfront, hback, rfl⟩
  · rintro ⟨front, back, hfront, hback, rfl⟩
    exact ⟨front, hfront, back, hback, rfl⟩

/-! ## Exact reading -/

/-- **Exact reading**: the reader takes the written forms of its values from the front of the
input and nothing else. -/
structure Reader.Reads {α : Type} (reader : Reader α) (form : α → Bytes → Prop) : Prop where
  accepts : ∀ {value : α} {bytes : Bytes}, form value bytes → ∀ (offset : Nat) (rest : Bytes)
    (reserved : Nat), ∃ reserved', reader ⟨offset, bytes ++ rest, reserved⟩
      = .ok value ⟨offset + bytes.length, rest, reserved'⟩
  takes : ∀ {value : α} {before after : Cursor}, reader before = .ok value after →
    ∃ bytes, form value bytes ∧ before.rest = bytes ++ after.rest
      ∧ after.offset = before.offset + bytes.length

namespace Reader

variable {α β : Type}

/-! ## Composition -/

theorem Reads.congr {reader : Reader α} {form form' : α → Bytes → Prop}
    (h : Reads reader form) (hform : ∀ value bytes, form value bytes ↔ form' value bytes) :
    Reads reader form' where
  accepts hv := h.accepts ((hform _ _).mpr hv)
  takes hr := by
    obtain ⟨bytes, hv, hrest, hoff⟩ := h.takes hr
    exact ⟨bytes, (hform _ _).mp hv, hrest, hoff⟩

/-- A written form is not the beginning of another one: the reader has to stop behind both. -/
theorem Reads.unique {reader : Reader α} {form : α → Bytes → Prop} (h : Reads reader form)
    {a a' : α} {front front' rest rest' : Bytes} (ha : form a front) (ha' : form a' front')
    (heq : front ++ rest = front' ++ rest') : a = a' ∧ front = front' ∧ rest = rest' := by
  -- the reader runs once, and each form says on its own where that run ends
  obtain ⟨r, hr⟩ := h.accepts ha 0 rest 0
  obtain ⟨r', hr'⟩ := h.accepts ha' 0 rest' 0
  rw [heq, hr'] at hr
  injection hr with hvalue hcursor
  injection hcursor with _ hrest
  rw [hrest] at heq
  exact ⟨hvalue.symm, List.append_cancel_right heq, hrest.symm⟩

/-- A reader that only gives a value takes nothing. -/
theorem Reads.pure (value : α) :
    Reads (Pure.pure value) (fun v bytes => v = value ∧ bytes = []) where
  accepts := by
    rintro v bytes ⟨rfl, rfl⟩ offset rest reserved
    exact ⟨reserved, rfl⟩
  takes := by
    intro v before after hr
    cases hr
    exact ⟨[], ⟨rfl, rfl⟩, rfl, rfl⟩

/-- Readers one after the other take the forms of their values one after the other. -/
theorem Reads.bind {reader : Reader α} {next : α → Reader β} {form : α → Bytes → Prop}
    {form' : α → β → Bytes → Prop} (h : Reads reader form)
    (hnext : ∀ a, Reads (next a) (form' a)) :
    Reads (reader >>= next) (fun b bytes => ∃ a front back,
      form a front ∧ form' a b back ∧ bytes = front ++ back) where
  accepts := by
    rintro b bytes ⟨a, front, back, hfront, hback, rfl⟩ offset rest reserved
    obtain ⟨r₁, h₁⟩ := h.accepts hfront offset (back ++ rest) reserved
    obtain ⟨r₂, h₂⟩ := (hnext a).accepts hback (offset + front.length) rest r₁
    refine ⟨r₂, ?_⟩
    rw [List.append_assoc, bind_of_ok h₁, h₂, List.length_append, Nat.add_assoc]
  takes := by
    intro b before after hr
    obtain ⟨a, middle, h₁, h₂⟩ := bind_eq_ok.mp hr
    obtain ⟨front, hfront, hrest₁, hoff₁⟩ := h.takes h₁
    obtain ⟨back, hback, hrest₂, hoff₂⟩ := (hnext a).takes h₂
    refine ⟨front ++ back, ⟨a, front, back, hfront, hback, rfl⟩, ?_, ?_⟩
    · rw [hrest₁, hrest₂, List.append_assoc]
    · rw [hoff₂, hoff₁, List.length_append, Nat.add_assoc]

/-- A reader run `count` times takes the records of `count` values one after the other. -/
theorem Reads.replicate {reader : Reader α} {encodeOne : α → Except Error Bytes}
    (h : Reads reader fun a bytes => encodeOne a = .ok bytes) (count : Nat) :
    Reads (Reader.replicate reader count) (fun values bytes =>
      values.length = count ∧ encodeAll encodeOne values = .ok bytes) := by
  induction count with
  | zero =>
    refine (Reads.pure []).congr fun values bytes => ?_
    cases values with
    | nil => simp [encodeAll, eq_comm]
    | cons first rest => simp
  | succ count ih =>
    refine (h.bind fun first => ih.bind fun rest => Reads.pure (first :: rest)).congr
      fun values bytes => ?_
    constructor
    · rintro ⟨first, front, _, hfirst, ⟨rest, back, _, ⟨hlen, hrest⟩, ⟨rfl, rfl⟩, rfl⟩, rfl⟩
      rw [List.append_nil]
      exact ⟨by rw [List.length_cons, hlen],
        encodeAll_cons_eq_ok.mpr ⟨front, back, hfirst, hrest, rfl⟩⟩
    · rintro ⟨hlen, hall⟩
      match values, hlen with
      | first :: rest, hlen =>
        obtain ⟨front, back, hfirst, hrest, rfl⟩ := encodeAll_cons_eq_ok.mp hall
        refine ⟨first, front, back, hfirst, ⟨rest, back, [], ⟨Nat.succ.inj hlen, hrest⟩,
          ⟨rfl, rfl⟩, (List.append_nil back).symm⟩, rfl⟩

/-! ## Fields -/

theorem take_eq_ok {field : Field} {count : Nat} {before after : Cursor} {bytes : Bytes} :
    take field count before = .ok bytes after ↔
      bytes.length = count ∧ before.rest = bytes ++ after.rest
        ∧ after.offset = before.offset + count ∧ after.reserved = before.reserved := by
  unfold take
  split
  · next hlong =>
    have hle : count ≤ before.rest.length := (hasAtLeast_iff _ _).mp hlong
    constructor
    · intro h
      cases h
      exact ⟨List.length_take_of_le hle, (List.take_append_drop _ _).symm, rfl, rfl⟩
    · rintro ⟨hlen, hrest, hoff, hres⟩
      obtain ⟨offset₀, rest₀, reserved₀⟩ := before
      obtain ⟨offset, rest, reserved⟩ := after
      dsimp only at hrest hoff hres
      subst hlen hrest hoff hres
      simp
  · next hshort =>
    have hlt : ¬ count ≤ before.rest.length := fun h => hshort ((hasAtLeast_iff _ _).mpr h)
    constructor
    · intro h
      cases h
    · rintro ⟨hlen, hrest, -, -⟩
      rw [hrest, List.length_append] at hlt
      omega

theorem take_eq_error {field : Field} {count : Nat} {before after : Cursor} {error : Error} :
    take field count before = .error error after ↔
      before.rest.length < count ∧ error = .truncated field before.offset ∧ after = before := by
  unfold take
  split
  · next hlong =>
    have hle : count ≤ before.rest.length := (hasAtLeast_iff _ _).mp hlong
    constructor
    · intro h
      cases h
    · rintro ⟨hshort, -⟩
      omega
  · next hshort =>
    have hlt : before.rest.length < count :=
      Nat.lt_of_not_le fun h => hshort ((hasAtLeast_iff _ _).mpr h)
    constructor
    · intro h
      cases h
      exact ⟨hlt, rfl, rfl⟩
    · rintro ⟨-, rfl, rfl⟩
      rfl

/-- The next `count` bytes, whatever they are. -/
theorem reads_take (field : Field) (count : Nat) :
    Reads (take field count) (fun value bytes => value = bytes ∧ bytes.length = count) where
  accepts := by
    rintro value bytes ⟨rfl, hlen⟩ offset rest reserved
    exact ⟨reserved, take_eq_ok.mpr ⟨hlen, rfl, by rw [hlen], rfl⟩⟩
  takes := by
    intro value before after hr
    obtain ⟨hlen, hrest, hoff, -⟩ := take_eq_ok.mp hr
    exact ⟨value, ⟨rfl, hlen⟩, hrest, by rw [hoff, hlen]⟩

/-- A number in `width` bytes, of any type whose values are the numbers below `256 ^ width`, has
one written form. -/
theorem reads_number {ofNat : Nat → α} {toNat : α → Nat} (field : Field) (width : Nat)
    (ofNat_toNat : ∀ a, ofNat (toNat a) = a) (toNat_lt : ∀ a, toNat a < 256 ^ width)
    (toNat_ofNat : ∀ n, n < 256 ^ width → toNat (ofNat n) = n) :
    Reads (do return ofNat (LittleEndian.decode (← take field width)))
      (fun a bytes => bytes = LittleEndian.encode width (toNat a)) := by
  refine ((reads_take field width).bind fun bytes => Reads.pure _).congr fun a bytes => ?_
  constructor
  · rintro ⟨front, _, _, ⟨rfl, rfl⟩, ⟨rfl, rfl⟩, rfl⟩
    rw [toNat_ofNat _ (LittleEndian.decode_lt front), LittleEndian.encode_decode,
      List.append_nil]
  · rintro rfl
    refine ⟨_, _, [], ⟨rfl, LittleEndian.length_encode width _⟩, ⟨?_, rfl⟩,
      (List.append_nil _).symm⟩
    rw [LittleEndian.decode_encode, Nat.mod_eq_of_lt (toNat_lt a), ofNat_toNat]

theorem reads_word (field : Field) :
    Reads (word field) (fun n bytes => bytes = LittleEndian.encode 4 n.toNat) :=
  reads_number field 4 (fun _ => UInt32.ofNat_toNat) UInt32.toNat_lt
    (fun _ hn => UInt32.toNat_ofNat_of_lt' hn)

theorem reads_size (field : Field) :
    Reads (size field) (fun n bytes => bytes = encodeSize n) :=
  reads_number field 8 (fun _ => UInt64.ofNat_toNat) UInt64.toNat_lt
    (fun _ hn => UInt64.toNat_ofNat_of_lt' hn)

/-- The text reader behind its look at the position, which stands in its error only. -/
def textFrom (field : Field) (start : Nat) : Reader String := do
  let length ← word field
  let bytes ← take field length.toNat
  match Text.decode bytes with
  | some text => return text
  | none => throw (.invalidText field start)

theorem text_apply (field : Field) (cursor : Cursor) :
    text field cursor = textFrom field cursor.offset cursor := rfl

/-- A text is read exactly where its own encoding stands: the length in front of it is that of
its UTF-8 bytes, and no other bytes are decoded to it. -/
theorem reads_text (field : Field) :
    Reads (text field) (fun t bytes => encodeText field t = .ok bytes) where
  accepts := by
    intro t bytes ht offset rest reserved
    obtain ⟨hlt, rfl⟩ := encodeText_eq_ok.mp ht
    have hlen : (UInt32.ofNat t.utf8ByteSize).toNat = t.utf8ByteSize :=
      UInt32.toNat_ofNat_of_lt' hlt
    have hword : LittleEndian.encode 4 t.utf8ByteSize
        = LittleEndian.encode 4 (UInt32.ofNat t.utf8ByteSize).toNat := by rw [hlen]
    obtain ⟨r₁, h₁⟩ := (reads_word field).accepts hword offset (Text.encode t ++ rest) reserved
    obtain ⟨r₂, h₂⟩ := (reads_take field t.utf8ByteSize).accepts
      ⟨rfl, Text.length_encode t⟩
      (offset + (LittleEndian.encode 4 t.utf8ByteSize).length) rest r₁
    refine ⟨r₂, ?_⟩
    rw [List.append_assoc, List.length_append, ← Nat.add_assoc]
    rw [text_apply, textFrom, bind_of_ok h₁, hlen, bind_of_ok h₂, Text.decode_encode]
    rfl
  takes := by
    intro t before after hr
    rw [text_apply] at hr
    obtain ⟨length, middle, h₁, hr⟩ := bind_eq_ok.mp hr
    obtain ⟨payload, last, h₂, hr⟩ := bind_eq_ok.mp hr
    obtain ⟨front, rfl, hrest₁, hoff₁⟩ := (reads_word field).takes h₁
    obtain ⟨_, ⟨rfl, hlen⟩, hrest₂, hoff₂⟩ := (reads_take field length.toNat).takes h₂
    cases hdec : Text.decode payload with
    | none =>
      rw [hdec] at hr
      cases hr
    | some t' =>
      rw [hdec] at hr
      cases hr
      -- the bytes read as `t` are its own, so their number is the length that was read
      have hbytes := Text.encode_of_decode hdec
      have hsize : t.utf8ByteSize = length.toNat := by
        rw [← Text.length_encode, hbytes, hlen]
      refine ⟨_, encodeText_eq_ok.mpr ⟨?_, rfl⟩, ?_, ?_⟩
      · rw [hsize]
        exact length.toNat_lt
      · rw [hrest₁, hrest₂, hsize, hbytes, List.append_assoc]
      · rw [hoff₂, hoff₁, hsize, hbytes, List.length_append, Nat.add_assoc]

end Reader

end StructVault.Snapshot
