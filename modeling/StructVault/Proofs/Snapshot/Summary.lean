import StructVault.Proofs.Snapshot.File
import StructVault.Proofs.Snapshot.Reservation

/-!
# What writers report

A snapshot is written to a stream (`write`) or over a file (`save`, durably or not). Each writer
counts for itself what it wrote, apart from the encoder. `Summary.Describes` lists what a summary has
to have right about the bytes, and `summary_describes` says that every summary a writer gives has.
-/

namespace StructVault.Snapshot

open Steps

variable {structures : List Structure} {data : Bytes}

/-- The length of a snapshot is known before it is made. -/
theorem length_of_encode (h : encode structures = .ok data) :
    data.length = encodedSize structures := by
  rw [length_of_decode (decode_of_encode h true)]
  rfl

/-- Twenty bytes are the least a record has, so that a file without a body has no record. -/
theorem encodedSize_eq_size_iff (structures : List Structure) :
    encodedSize structures = Header.size ↔ structures = [] := by
  constructor
  · intro h
    have hlength : structures.length = 0 := by
      unfold encodedSize at h
      omega
    exact List.length_eq_zero_iff.mp hlength
  · rintro rfl
    rfl

theorem Summary.hasWarnings_of (structures : List Structure) (bytes : Nat) :
    (Summary.of structures bytes).hasWarnings = true ↔ structures = [] := by
  cases structures with
  | nil => simp [Summary.of, Summary.hasWarnings]
  | cons first rest => simp [Summary.of, Summary.hasWarnings]

/-- A writer to a stream writes the encoding and nothing else. -/
theorem write_eq_ok {summary : Summary} : write structures = .ok (data, summary) ↔
    encode structures = .ok data ∧ summary = Summary.of structures data.length := by
  unfold write
  rw [attempt_bind_eq_ok]
  constructor
  · rintro ⟨bytes, hbytes, hsummary⟩
    cases hsummary
    exact ⟨hbytes, rfl⟩
  · rintro ⟨hbytes, rfl⟩
    exact ⟨data, hbytes, rfl⟩

/-- What a summary has to have right about the bytes that were written for a list. -/
structure Summary.Describes (summary : Summary) (structures : List Structure) (data : Bytes) :
    Prop where
  /-- The bytes are those of the encoder. -/
  encoded : encode structures = .ok data
  /-- The summary states how many bytes there are. -/
  bytes_eq : summary.bytes = data.length
  /-- Twenty bytes for each record that is counted, and the texts, are all there is. -/
  bytes_sum : summary.bytes
    = 16 + 20 * (summary.structures + summary.members) + textSize structures
  /-- The counts are those of the list that is read from the bytes. -/
  found : ∀ verifyChecksum, ∃ found, decode verifyChecksum data = .ok found
    ∧ found.length = summary.structures ∧ memberCount found = summary.members
  /-- It warns of a file that is only a header, and of no other. -/
  warned : summary.hasWarnings = true ↔ data.length = 16

theorem Summary.describes_of_encode (h : encode structures = .ok data) :
    (Summary.of structures data.length).Describes structures data where
  encoded := h
  bytes_eq := rfl
  bytes_sum := length_of_encode h
  found verifyChecksum := ⟨structures, decode_of_encode h verifyChecksum, rfl, rfl⟩
  warned := by
    rw [Summary.hasWarnings_of, ← encodedSize_eq_size_iff, length_of_encode h]
    rfl

/-- **True summaries**: whichever writer gives a summary, it describes the encoding of the list. The
writers of files leave that encoding at the path, where it is loaded again, and report what a writer
to a stream reports. -/
theorem summary_describes (structures : List Structure) :
    (∀ data summary, write structures = .ok (data, summary) → summary.Describes structures data)
    ∧ ∀ (files : FileTree) (path : Path) (sync : Bool) (summary : Summary) (left : FileTree),
      save files path structures sync = (.ok summary, left) → ∃ data, left.read path = .ok data
        ∧ write structures = .ok (data, summary) ∧ summary.Describes structures data
        ∧ ∀ verifyChecksum, load left path verifyChecksum = .ok structures := by
  constructor
  · intro data summary h
    obtain ⟨hencode, rfl⟩ := write_eq_ok.mp h
    exact Summary.describes_of_encode hencode
  · intro files path sync summary left h
    obtain ⟨data, hencode, hreplace, rfl⟩ := save_eq_ok.mp h
    exact ⟨data, FileTree.read_of_replaceFile hreplace, write_eq_ok.mpr ⟨hencode, rfl⟩,
      Summary.describes_of_encode hencode, load_of_save hencode hreplace⟩

/-- Two structures with two members and six bytes of text, over a file of one byte. -/
theorem summary_describes_pointList :
    ∃ left data, save nestedTree ⟨"sub/a.spst"⟩ pointList true
        = (.ok { structures := 2, members := 2, bytes := 102 }, left)
      ∧ left.read ⟨"sub/a.spst"⟩ = .ok data ∧ data.length = 102
      ∧ ¬ data.length = 16 := by
  have hsummary : (save nestedTree ⟨"sub/a.spst"⟩ pointList true).1
      = .ok { structures := 2, members := 2, bytes := 102 } := by decide +kernel
  have hsave : save nestedTree ⟨"sub/a.spst"⟩ pointList true
      = (.ok { structures := 2, members := 2, bytes := 102 },
        (save nestedTree ⟨"sub/a.spst"⟩ pointList true).2) := Prod.ext hsummary rfl
  obtain ⟨data, hread, -, hdescribes, -⟩ := (summary_describes pointList).2 _ _ _ _ _ hsave
  refine ⟨_, data, hsave, hread, hdescribes.bytes_eq.symm, fun hbare => ?_⟩
  exact absurd (hdescribes.warned.mpr hbare) (by decide)

end StructVault.Snapshot
