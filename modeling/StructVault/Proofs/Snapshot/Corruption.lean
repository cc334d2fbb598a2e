import StructVault.Proofs.Checksum
import StructVault.Proofs.Snapshot.RoundTrip

/-!
# Damaged files

A file that decodes with its checksum compared does not decode any more once it is damaged inside
its header or inside four consecutive bytes of its body (`decode_damaged`). The two places need
different arguments. The header is determined by the body: mark, version and flags are fixed, a
body holds only one list of structures and so only one number of them, and the checksum is
computed from it (`eq_of_body_eq`). The body in turn is held by the checksum in the header, which
detects changes in four consecutive bytes (`eq_of_header_eq`).
-/

namespace StructVault.Snapshot

variable {data data' : Bytes} {structures structures' : List Structure}

/-- Accepted files with one body are one file. -/
theorem eq_of_body_eq (h : decode true data = .ok structures)
    (h' : decode true data' = .ok structures')
    (hbody : data.drop Header.size = data'.drop Header.size) : data = data' := by
  obtain ⟨-, body, crc, hall, rfl, hsum⟩ := decode_eq_ok_iff.mp h
  obtain ⟨-, body', crc', hall', rfl, hsum'⟩ := decode_eq_ok_iff.mp h'
  rw [drop_header, drop_header] at hbody
  subst hbody
  rw [body_unique hall hall', hsum rfl, hsum' rfl]

/-- Accepted files with one header whose bodies differ in four consecutive bytes at most are one
file. -/
theorem eq_of_header_eq (h : decode true data = .ok structures)
    (h' : decode true data' = .ok structures')
    (hheader : data.take Header.size = data'.take Header.size) {start : Nat}
    (hbody : AgreeOutside start (start + 4) (data.drop Header.size) (data'.drop Header.size)) :
    data = data' := by
  obtain ⟨-, body, crc, -, rfl, hsum⟩ := decode_eq_ok_iff.mp h
  obtain ⟨-, body', crc', -, rfl, hsum'⟩ := decode_eq_ok_iff.mp h'
  rw [drop_header, drop_header] at hbody
  have hbytes : (Header.withChecksum structures.length crc).toBytes
      = (Header.withChecksum structures'.length crc').toBytes := hheader
  have hcrc : crc = crc' := congrArg Header.bodyChecksum (Header.toBytes_injective hbytes)
  rw [hsum rfl, hsum' rfl] at hcrc
  rw [hbytes, Crc32.eq_of_checksum_eq hbody hcrc]

/-- Files that only differ in the header, or only in four consecutive bytes of the body. -/
def Damaged (data data' : Bytes) : Prop :=
  AgreeOutside 0 Header.size data data'
    ∨ ∃ start, Header.size ≤ start ∧ AgreeOutside start (start + 4) data data'

theorem eq_of_damaged (h : decode true data = .ok structures)
    (h' : decode true data' = .ok structures') (hdamaged : Damaged data data') :
    data = data' := by
  rcases hdamaged with hheader | ⟨start, hstart, hbody⟩
  · exact eq_of_body_eq h h' (agreeOutside_iff.mp hheader).2.2
  · -- the window starts behind the header, so the header is part of what agrees in front of it
    obtain ⟨k, rfl⟩ := Nat.exists_eq_add_of_le hstart
    obtain ⟨hlen, hfront, -⟩ := agreeOutside_iff.mp hbody
    refine eq_of_header_eq h h' ?_ (hbody.drop Header.size)
    have hpart := congrArg (List.take Header.size) hfront
    rwa [List.take_take, List.take_take, Nat.min_eq_left (Nat.le_add_right _ _)] at hpart

/-- A byte of a file stands in the header or in the body. -/
theorem damaged_modify (data : Bytes) (position : Nat) (change : UInt8 → UInt8) :
    Damaged data (data.modify position change) := by
  have hone := agreeOutside_modify data position change
  by_cases hin : position < Header.size
  · exact Or.inl (hone.mono (Nat.zero_le _) hin)
  · exact Or.inr ⟨position, Nat.le_of_not_lt hin,
      hone.mono (Nat.le_refl _) (Nat.add_le_add_left (by decide) _)⟩

/-- **Corruption detection**: once an accepted file is changed inside its header only, or inside
four consecutive bytes of its body only, it is refused. In particular it is refused when any bits
of a single byte are flipped. -/
theorem decode_damaged (h : decode true data = .ok structures) :
    (∀ data', data' ≠ data → (AgreeOutside 0 16 data data'
        ∨ ∃ start, 16 ≤ start ∧ AgreeOutside start (start + 4) data data') →
      ∃ error, decode true data' = .error error)
    ∧ ∀ position < data.length, ∀ mask : UInt8, mask ≠ 0 →
      ∃ error, decode true (data.modify position (· ^^^ mask)) = .error error := by
  have hrefused : ∀ data', data' ≠ data → Damaged data data' →
      ∃ error, decode true data' = .error error := by
    intro data' hne hdamaged
    cases hdec : decode true data' with
    | error error => exact ⟨error, rfl⟩
    | ok structures' => exact absurd (eq_of_damaged h hdec hdamaged).symm hne
  refine ⟨hrefused, fun position hin mask hmask => ?_⟩
  exact hrefused _ (modify_xor_ne hin hmask) (damaged_modify data position _)

/-- The snapshot of a structure `a` with one member `b` of type `int`. -/
def intactFile : Bytes :=
  [83, 80, 83, 84, 1, 0, 0, 0, 1, 0, 0, 0, 246, 21, 88, 228, 1, 0, 0, 0, 97, 0, 0, 0, 0, 8, 0, 0,
    0, 0, 0, 0, 0, 1, 0, 0, 0, 1, 0, 0, 0, 98, 3, 0, 0, 0, 105, 110, 116, 0, 0, 0, 0, 8, 0, 0, 0,
    0, 0, 0, 0]

/-- The same file with the type `int` spelled `tin`, which is as long and as valid. -/
def damagedFile : Bytes :=
  [83, 80, 83, 84, 1, 0, 0, 0, 1, 0, 0, 0, 246, 21, 88, 228, 1, 0, 0, 0, 97, 0, 0, 0, 0, 8, 0, 0,
    0, 0, 0, 0, 0, 1, 0, 0, 0, 1, 0, 0, 0, 98, 3, 0, 0, 0, 116, 105, 110, 0, 0, 0, 0, 8, 0, 0, 0,
    0, 0, 0, 0]

theorem decode_damaged_type :
    decode true intactFile = .ok [{ name := "a", size := 8, members := [
        { name := "b", typeName := "int", size := 8 }] }]
      ∧ damagedFile ≠ intactFile ∧ AgreeOutside 46 50 intactFile damagedFile
      ∧ ∃ error, decode true damagedFile = .error error := by
  have hintact : decode true intactFile = .ok [{ name := "a", size := 8, members := [
      { name := "b", typeName := "int", size := 8 }] }] :=
    Steps.attempt_eq_ok_iff.mpr (by decide +kernel)
  have hne : damagedFile ≠ intactFile := by decide
  have hwindow : AgreeOutside 46 50 intactFile damagedFile :=
    agreeOutside_iff.mpr ⟨by decide, by decide, by decide⟩
  exact ⟨hintact, hne, hwindow,
    (decode_damaged hintact).1 damagedFile hne (Or.inr ⟨46, by decide, hwindow⟩)⟩

end StructVault.Snapshot
