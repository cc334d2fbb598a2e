import StructVault.Proofs.Files.Replace
import StructVault.Proofs.Snapshot.RoundTrip
import StructVault.Snapshot.File

/-!
# Snapshot files

`save_eq_ok` and `load_eq_ok` say when a list of structures is saved and loaded, in terms of the
encoding and of the file at the path. What is saved is loaded again (`load_of_save`), whether or
not the checksum is compared. A save that fails leaves the file intact (`intact_of_save_error`), and
the step that makes one durable is never the one that fails (`replaceFile_durable`).
-/

namespace StructVault.Snapshot

open Steps

variable {files left : FileTree} {path : Path} {structures : List Structure}

/-- What the encoder writes is decoded to the list it was given. -/
theorem decode_of_encode {bytes : Bytes} (h : encode structures = .ok bytes)
    (verifyChecksum : Bool) : decode verifyChecksum bytes = .ok structures := by
  obtain ⟨hlt, body, hbody, rfl⟩ := encode_eq_ok_iff.mp h
  exact decode_eq_ok_iff.mpr ⟨hlt, body, _, hbody, rfl, fun _ => rfl⟩

theorem load_eq_ok {verifyChecksum : Bool} : load files path verifyChecksum = .ok structures ↔
    ∃ data, files.read path = .ok data ∧ decode verifyChecksum data = .ok structures := by
  unfold load
  rw [attempt_bind_eq_ok]
  simp only [mapError_eq_ok]

theorem replaceFile_eq_ok {content : Bytes} {sync : Bool} :
    replaceFile files path content sync = (.ok (), left) ↔
      files.replaceFile path content sync = (.ok (), left) := by
  unfold replaceFile
  obtain ⟨result, left'⟩ := files.replaceFile path content sync
  simp [mapError_eq_ok]

/-- A file that was not replaced is intact. -/
theorem intact_of_replaceFile_error {content : Bytes} {sync : Bool} {error : Error}
    (h : replaceFile files path content sync = (.error error, left)) :
    files.Intact left path := by
  unfold replaceFile at h
  cases hreplace : files.replaceFile path content sync with
  | mk result behind =>
    rw [hreplace] at h
    cases result with
    | ok done => cases h
    | error failure =>
      cases h
      exact (FileTree.outcome_of_replaceFile hreplace).intact_of_error

/-- **Durable replacements**: with `sync` the directory of the file is opened behind the move, when
the file is already replaced. That never makes an error of a replacement that is complete: the move
found its way to that directory, so the path of the parent leads there too. The new content and the
tree are the same with it and without it. -/
theorem replaceFile_durable (files : FileTree) (path : Path) (content : Bytes) :
    replaceFile files path content true = replaceFile files path content false
      ∧ ∀ temporary written renamed, path.temporary? = some temporary →
        files.write temporary content = .ok written → written.rename temporary path = .ok renamed →
          (∃ directory, renamed.openDirectory path.parent = .ok directory)
            ∧ ∀ sync, replaceFile files path content sync = (.ok (), renamed) := by
  constructor
  · unfold replaceFile
    rw [FileTree.replaceFile_sync files path content true false]
  · intro temporary written renamed htemporary hwrite hrename
    refine ⟨FileTree.openDirectory_of_rename hrename, fun sync => replaceFile_eq_ok.mpr ?_⟩
    exact FileTree.replaceFile_of_stage_ok htemporary (FileTree.stage_of_rename hwrite hrename)

/-- A file in a directory below the working directory. -/
def nestedTree : FileTree where
  workingDirectory := ["home"]
  entries := [(["home"], .directory), (["home", "sub"], .directory),
    (["home", "sub", "a.spst"], .file [1])]

/-- The way to the file may hold more slashes and dots than it takes. -/
theorem replaceFile_durable_nestedTree :
    replaceFile nestedTree ⟨"sub//./a.spst"⟩ [7] true
      = (.ok (), { nestedTree with entries := [(["home", "sub", "a.spst"], .file [7]),
          (["home"], .directory), (["home", "sub"], .directory)] }) :=
  ((replaceFile_durable nestedTree ⟨"sub//./a.spst"⟩ [7]).2 _ _ _ rfl rfl rfl).2 true

/-- A save succeeds when the list is encoded and the file is replaced by its encoding. -/
theorem save_eq_ok {sync : Bool} {summary : Summary} :
    save files path structures sync = (.ok summary, left) ↔ ∃ bytes,
      encode structures = .ok bytes ∧ files.replaceFile path bytes sync = (.ok (), left)
        ∧ summary = Summary.of structures bytes.length := by
  unfold save
  cases hencode : encode structures with
  | error error => simp
  | ok bytes =>
    simp only [Except.ok.injEq, exists_eq_left', ← replaceFile_eq_ok]
    obtain ⟨result, left'⟩ := replaceFile files path bytes sync
    cases result with
    | error error => simp
    | ok done =>
      simp only [Prod.mk.injEq, Except.ok.injEq, true_and]
      exact ⟨fun ⟨hsummary, hleft⟩ => ⟨hleft, hsummary.symm⟩,
        fun ⟨hleft, hsummary⟩ => ⟨hsummary.symm, hleft⟩⟩

/-- A save that fails leaves the file intact. -/
theorem intact_of_save_error {sync : Bool} {error : Error}
    (h : save files path structures sync = (.error error, left)) : files.Intact left path := by
  unfold save at h
  cases hencode : encode structures with
  | error failure =>
    rw [hencode] at h
    cases h
    exact .refl files path
  | ok bytes =>
    simp only [hencode] at h
    cases hreplace : replaceFile files path bytes sync with
    | mk result behind =>
      rw [hreplace] at h
      cases result with
      | ok done => cases h
      | error failure =>
        cases h
        exact intact_of_replaceFile_error hreplace

/-- **Saved snapshots** are the encoding of the list, and are loaded as the list. -/
theorem load_of_save {sync : Bool} {bytes : Bytes}
    (hencode : encode structures = .ok bytes)
    (h : files.replaceFile path bytes sync = (.ok (), left)) (verifyChecksum : Bool) :
    load left path verifyChecksum = .ok structures :=
  load_eq_ok.mpr ⟨bytes, FileTree.read_of_replaceFile h, decode_of_encode hencode verifyChecksum⟩

end StructVault.Snapshot
