import StructVault.Proofs.Database.Validity
import StructVault.Proofs.Snapshot.File
import StructVault.Transfer

/-!
# Imports, call by call

What work at a desk comes down to on its host and on its files (`onHost_eq_ok`, `onFiles_eq_ok`),
and what an import does, success and failure apart (`importFrom_eq_ok`, `importFrom_eq_error`).
Imports touch the host in their last step only, and that step either stores a whole list or nothing
(`replaceStructures_ok`, `database_of_replaceStructures_error`).
-/

namespace StructVault

open Steps

/-! ## The host -/

namespace Access

variable {host left : Host} {structures : List Structure}

/-- Let through or refused, a call changes no more than the refusal to come. -/
theorem admitted_cases (call : HostCall) (host : Host) : ∃ refusal,
    admitted call host = .ok () { host with refusal }
      ∨ ∃ error, admitted call host = .error error { host with refusal } :=
  (makes_admitted call).cases host.refusal

/-- A list that was taken is all that is stored. -/
theorem replaceStructures_ok (h : replaceStructures structures host = .ok () left) :
    Database.ofStructures structures = .ok left.database := by
  obtain ⟨_, admittedHost, -, h⟩ := bind_eq_ok.mp h
  cases hlist : Database.ofStructures structures with
  | error error =>
    rw [hlist] at h
    cases h
  | ok database =>
    rw [hlist] at h
    cases h
    rfl

/-- A list that was not taken leaves no trace in the database. -/
theorem database_of_replaceStructures_error {error : Database.Error}
    (h : replaceStructures structures host = .error error left) :
    left.database = host.database := by
  obtain ⟨refusal, hadmitted | ⟨refused, hrefused⟩⟩ := admitted_cases .replaceStructures host
  · rw [replaceStructures, bind_of_ok hadmitted] at h
    cases hlist : Database.ofStructures structures with
    | error error' =>
      rw [hlist] at h
      cases h
      rfl
    | ok database =>
      rw [hlist] at h
      cases h
  · rcases bind_eq_error.mp h with h | ⟨_, between, hadmitted, -⟩
    · rw [hrefused] at h
      cases h
      rfl
    · rw [hrefused] at hadmitted
      cases hadmitted

end Access

/-! ## The desk -/

namespace DeskWork

variable {desk left : Desk} {path : Path}

theorem onHost_eq_ok {α : Type} {calls : Access α} {value : α} :
    onHost calls desk = .ok value left ↔
      ∃ host, calls desk.host = .ok value host ∧ left = { desk with host } := by
  unfold onHost
  cases calls desk.host with
  | ok value' host =>
    constructor
    · intro h
      cases h
      exact ⟨host, rfl, rfl⟩
    · rintro ⟨host', h, rfl⟩
      cases h
      rfl
  | error error host => simp

theorem onHost_eq_error {α : Type} {calls : Access α} {error : Database.Error} :
    onHost calls desk = .error error left ↔
      ∃ host, calls desk.host = .error error host ∧ left = { desk with host } := by
  unfold onHost
  cases calls desk.host with
  | ok value host => simp
  | error error' host =>
    constructor
    · intro h
      cases h
      exact ⟨host, rfl, rfl⟩
    · rintro ⟨host', h, rfl⟩
      cases h
      rfl

theorem onFiles_eq_ok {α : Type} {change : FileTree → Except Snapshot.Error α × FileTree}
    {value : α} : onFiles change desk = .ok value left ↔
      ∃ files, change desk.files = (.ok value, files) ∧ left = { desk with files } := by
  unfold onFiles
  obtain ⟨result, files⟩ := change desk.files
  cases result with
  | ok value' =>
    constructor
    · intro h
      cases h
      exact ⟨files, rfl, rfl⟩
    · rintro ⟨files', h, rfl⟩
      cases h
      rfl
  | error error => simp

theorem onFiles_eq_error {α : Type} {change : FileTree → Except Snapshot.Error α × FileTree}
    {error : Database.Error} : onFiles change desk = .error error left ↔
      ∃ cause files, change desk.files = (.error cause, files) ∧ error = .snapshot cause
        ∧ left = { desk with files } := by
  unfold onFiles
  obtain ⟨result, files⟩ := change desk.files
  cases result with
  | ok value => simp
  | error cause =>
    constructor
    · intro h
      cases h
      exact ⟨cause, files, rfl, rfl, rfl⟩
    · rintro ⟨cause', files', h, rfl, rfl⟩
      cases h
      rfl

theorem importFrom_apply (path : Path) (verifyChecksum : Bool) (desk : Desk) :
    importFrom path verifyChecksum desk = (match Snapshot.load desk.files path verifyChecksum with
      | .error error => throw (.snapshot error)
      | .ok structures => do
        onHost (Access.replaceStructures structures)
        return ImportReport.of path structures : DeskWork ImportReport) desk := rfl

/-- An import that succeeds has loaded a list, and the host took it. -/
theorem importFrom_eq_ok {verifyChecksum : Bool} {report : ImportReport} :
    importFrom path verifyChecksum desk = .ok report left ↔ ∃ structures host,
      Snapshot.load desk.files path verifyChecksum = .ok structures
        ∧ Access.replaceStructures structures desk.host = .ok () host
        ∧ left = { desk with host } ∧ report = ImportReport.of path structures := by
  rw [importFrom_apply]
  cases hload : Snapshot.load desk.files path verifyChecksum with
  | error error =>
    constructor
    · intro h
      cases h
    · rintro ⟨structures, host, hok, -⟩
      cases hok
  | ok structures =>
    constructor
    · intro h
      obtain ⟨_, behind, hhost, h⟩ := bind_eq_ok.mp h
      cases h
      obtain ⟨host, hreplace, rfl⟩ := onHost_eq_ok.mp hhost
      exact ⟨structures, host, rfl, hreplace, rfl, rfl⟩
    · rintro ⟨structures', host, hok, hreplace, rfl, rfl⟩
      cases hok
      exact bind_of_ok (onHost_eq_ok.mpr ⟨host, hreplace, rfl⟩)

/-- An import that fails has either not come to the host, or the host did not take the list. -/
theorem importFrom_eq_error {verifyChecksum : Bool} {error : Database.Error} :
    importFrom path verifyChecksum desk = .error error left ↔
      (∃ cause, Snapshot.load desk.files path verifyChecksum = .error cause
          ∧ error = .snapshot cause ∧ left = desk)
        ∨ ∃ structures host, Snapshot.load desk.files path verifyChecksum = .ok structures
          ∧ Access.replaceStructures structures desk.host = .error error host
          ∧ left = { desk with host } := by
  rw [importFrom_apply]
  cases hload : Snapshot.load desk.files path verifyChecksum with
  | error cause =>
    constructor
    · intro h
      cases h
      exact Or.inl ⟨cause, rfl, rfl, rfl⟩
    · rintro (⟨cause', hcause, rfl, rfl⟩ | ⟨structures, host, hok, -⟩)
      · cases hcause
        rfl
      · cases hok
  | ok structures =>
    constructor
    · intro h
      rcases bind_eq_error.mp h with hhost | ⟨_, behind, -, h⟩
      · obtain ⟨host, hreplace, rfl⟩ := onHost_eq_error.mp hhost
        exact Or.inr ⟨structures, host, rfl, hreplace, rfl⟩
      · cases h
    · rintro (⟨cause, hcause, -⟩ | ⟨structures', host, hok, hreplace, rfl⟩)
      · cases hcause
      · cases hok
        exact bind_eq_error.mpr (Or.inl (onHost_eq_error.mpr ⟨host, hreplace, rfl⟩))

end DeskWork

end StructVault
