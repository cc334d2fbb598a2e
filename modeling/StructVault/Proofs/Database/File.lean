import StructVault.Proofs.Database.Json
import StructVault.Proofs.Database.Validity
import StructVault.Proofs.Snapshot.File

/-!
# Database files

A file holds a database when it is a text that describes a valid one (`load_eq_ok`). A save only
replaces the file, so it succeeds where the file can be replaced, whatever the database is, and a
save that fails leaves the file intact. What was saved is loaded again, if it is valid
(`load_of_save`).
-/

namespace StructVault.Database

open Steps

variable {files left : FileTree} {path : Path} {database : Database}

/-- **Database files** are texts that describe a valid database. -/
theorem load_eq_ok : load files path = .ok database ↔ ∃ text, files.read path = .ok (Text.encode text)
    ∧ ofJsonText text = .ok database ∧ Valid database.structures := by
  unfold load
  rw [attempt_bind_eq_ok]
  constructor
  · rintro ⟨data, hread, h⟩
    split at h
    · cases h
    · next text hdecode =>
      obtain ⟨found, hparse, h⟩ := attempt_bind_eq_ok.mp h
      obtain ⟨hvalid, rfl⟩ := ofStored_eq_ok.mp h
      rw [← Text.encode_of_decode hdecode] at hread
      exact ⟨text, mapError_eq_ok.mp hread, mapError_eq_ok.mp hparse, hvalid⟩
  · rintro ⟨text, hread, hparse, hvalid⟩
    refine ⟨_, mapError_eq_ok.mpr hread, ?_⟩
    rw [Text.decode_encode]
    exact attempt_bind_eq_ok.mpr ⟨_, mapError_eq_ok.mpr hparse, ofStored_eq_ok.mpr ⟨hvalid, rfl⟩⟩

theorem save_eq_ok : save files path database = (.ok (), left) ↔
    files.replaceFile path (Text.encode database.jsonText) true = (.ok (), left) := by
  rw [← Snapshot.replaceFile_eq_ok]
  unfold save
  obtain ⟨result, left'⟩ := Snapshot.replaceFile files path (Text.encode database.jsonText) true
  simp [mapError_eq_ok]

/-- A save succeeds where the file can be replaced. -/
theorem exists_save_eq_ok_iff :
    (∃ left, save files path database = (.ok (), left)) ↔ files.Replaceable path := by
  simp only [save_eq_ok]
  exact FileTree.exists_replaceFile_eq_ok_iff

/-- A save that fails leaves the file intact. -/
theorem intact_of_save_error {error : Error}
    (h : save files path database = (.error error, left)) : files.Intact left path := by
  unfold save at h
  cases hreplace : Snapshot.replaceFile files path (Text.encode database.jsonText) true with
  | mk result behind =>
    rw [hreplace] at h
    cases result with
    | ok done => cases h
    | error failure =>
      cases h
      exact Snapshot.intact_of_replaceFile_error hreplace

/-- **Saved databases** are loaded again. -/
theorem load_of_save (hvalid : Valid database.structures)
    (h : save files path database = (.ok (), left)) : load left path = .ok database :=
  load_eq_ok.mpr ⟨database.jsonText, FileTree.read_of_replaceFile (save_eq_ok.mp h),
    ofJsonText_jsonText database, hvalid⟩

end StructVault.Database
