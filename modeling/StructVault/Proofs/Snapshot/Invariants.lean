import StructVault.Proofs.Snapshot.Reads

/-!
# Invariants of readers

Every reader of fields takes its bytes by `Reader.take`, and the only failure of its own is a text
that is none. An invariant of the cursor that these two respect (`Reader.KeptByFields`) is therefore
kept by each field, by the record of a member, and by records in a row.
-/

namespace StructVault.Snapshot

open Steps

namespace Reader

variable {inv : Cursor → Prop} {failure : Error → Cursor → Prop}

/-- What the reader of one record keeps is kept by a row of them. -/
theorem keeps_replicate {α : Type} {reader : Reader α} (h : Keeps inv failure reader)
    (count : Nat) : Keeps inv failure (Reader.replicate reader count) := by
  induction count with
  | zero => exact Keeps.pure []
  | succ count ih => exact h.bind fun first => ih.bind fun rest => Keeps.pure (first :: rest)

/-- The invariant outlasts taking bytes, and a text that is none may be reported under it. -/
structure KeptByFields (inv : Cursor → Prop) (failure : Error → Cursor → Prop) : Prop where
  take : ∀ field count, Keeps inv failure (take field count)
  invalidText : ∀ field start cursor, inv cursor → failure (.invalidText field start) cursor

theorem KeptByFields.word (h : KeptByFields inv failure) (field : Field) :
    Keeps inv failure (word field) :=
  (h.take field 4).bind fun _ => Keeps.pure _

theorem KeptByFields.size (h : KeptByFields inv failure) (field : Field) :
    Keeps inv failure (size field) :=
  (h.take field 8).bind fun _ => Keeps.pure _

theorem KeptByFields.text (h : KeptByFields inv failure) (field : Field) :
    Keeps inv failure (text field) := by
  refine Keeps.get.bind fun cursor => (h.word field).bind fun length =>
    (h.take field length.toNat).bind fun bytes => ?_
  cases Text.decode bytes with
  | some text => exact Keeps.pure text
  | none => exact Keeps.throw (h.invalidText field cursor.offset)

theorem KeptByFields.member (h : KeptByFields inv failure) : Keeps inv failure readMember :=
  (h.text .memberName).bind fun _ => (h.text .memberType).bind fun _ =>
    (h.text .memberComment).bind fun _ => (h.size .memberSize).bind fun _ => Keeps.pure _

end Reader

end StructVault.Snapshot
