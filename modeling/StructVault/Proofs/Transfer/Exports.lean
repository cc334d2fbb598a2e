import StructVault.Proofs.Transfer.Calls

/-!
# Exports, call by call

An export captures the host before it writes anything, so an export whose capture is refused leaves
the files as they are (`exportTo_of_refused`). Every other export is a save of what was captured
(`exportTo_of_captured`). No export changes the database, and one that fails does not change the
file it was to write (`exportTo_ok`, `exportTo_error`).

`capture_refused_exactly` says which refusals a capture meets: those that pass fewer calls of their
kind than the capture makes. It makes two for each structure, one to describe it and one to list its
members, and one for each member.
-/

namespace StructVault

open Steps

/-! ## Captures -/

namespace Access

variable {host left : Host} {structures : List Structure}

/-- A capture leaves the database alone, whether it is refused or not. -/
theorem capture_cases (host : Host) : ∃ refusal,
    capture host = .ok host.database.contents { host with refusal }
      ∨ ∃ error, capture host = .error error { host with refusal } :=
  (makes_capture host.database).cases host.refusal

theorem capture_ok (h : capture host = .ok structures left) :
    structures = host.database.contents ∧ left.database = host.database := by
  obtain ⟨refusal, hcaptured | ⟨error, hrefused⟩⟩ := capture_cases host
  · cases hcaptured.symm.trans h
    exact ⟨rfl, rfl⟩
  · cases hrefused.symm.trans h

theorem database_of_capture_error {error : Database.Error} (h : capture host = .error error left) :
    left.database = host.database := by
  obtain ⟨refusal, hcaptured | ⟨error', hrefused⟩⟩ := capture_cases host
  · cases hcaptured.symm.trans h
  · cases hrefused.symm.trans h
    rfl

end Access

/-! ## Exports -/

namespace DeskWork

variable {desk left : Desk} {path : Path} {sync : Bool} {error : Database.Error}
  {report : ExportReport}

/-- An export whose capture is refused ends there, before anything is written. -/
theorem exportTo_of_refused {host : Host} (h : Access.capture desk.host = .error error host)
    (path : Path) (sync : Bool) : exportTo path sync desk = .error error { desk with host } :=
  bind_eq_error.mpr (Or.inl (onHost_eq_error.mpr ⟨host, h, rfl⟩))

/-- Behind the capture an export is a save. -/
theorem exportTo_of_captured {structures : List Structure} {host : Host}
    (h : Access.capture desk.host = .ok structures host) (path : Path) (sync : Bool) :
    exportTo path sync desk = (do
      let summary ← onFiles fun files => Snapshot.save files path structures sync
      return { path, summary } : DeskWork ExportReport) { desk with host } :=
  bind_of_ok (onHost_eq_ok.mpr ⟨host, h, rfl⟩)

/-- An export writes the encoding of what the database holds, and only changes files. -/
theorem exportTo_eq_ok {database : Database} {files : FileTree} {sync : Bool}
    {report : ExportReport} :
    exportTo path sync { host := { database }, files } = .ok report left ↔ ∃ bytes replaced,
      Snapshot.encode database.contents = .ok bytes
        ∧ files.replaceFile path bytes sync = (.ok (), replaced)
        ∧ left = { host := { database }, files := replaced }
        ∧ report = { path, summary := Snapshot.Summary.of database.contents bytes.length } := by
  rw [exportTo_of_captured (Access.capture_eq_contents database)]
  constructor
  · intro h
    obtain ⟨summary, behind, hfiles, h⟩ := bind_eq_ok.mp h
    cases h
    obtain ⟨replaced, hsave, rfl⟩ := onFiles_eq_ok.mp hfiles
    obtain ⟨bytes, hencode, hreplace, rfl⟩ := Snapshot.save_eq_ok.mp hsave
    exact ⟨bytes, replaced, hencode, hreplace, rfl, rfl⟩
  · rintro ⟨bytes, replaced, hencode, hreplace, rfl, rfl⟩
    exact bind_of_ok (onFiles_eq_ok.mpr
      ⟨replaced, Snapshot.save_eq_ok.mpr ⟨bytes, hencode, hreplace, rfl⟩, rfl⟩)

/-- An export that succeeds leaves the database alone, and reports the path it was given. -/
theorem exportTo_ok (h : exportTo path sync desk = .ok report left) :
    left.host.database = desk.host.database ∧ report.path = path := by
  obtain ⟨structures, between, hhost, h⟩ := bind_eq_ok.mp h
  obtain ⟨host, hcapture, rfl⟩ := onHost_eq_ok.mp hhost
  obtain ⟨summary, behind, hfiles, h⟩ := bind_eq_ok.mp h
  cases h
  obtain ⟨replaced, -, rfl⟩ := onFiles_eq_ok.mp hfiles
  exact ⟨(Access.capture_ok hcapture).2, rfl⟩

/-- An export that fails leaves the database alone, and the file at its path intact. -/
theorem exportTo_error (h : exportTo path sync desk = .error error left) :
    left.host.database = desk.host.database ∧ desk.files.Intact left.files path := by
  rcases bind_eq_error.mp h with hhost | ⟨structures, between, hhost, h⟩
  · obtain ⟨host, hrefused, rfl⟩ := onHost_eq_error.mp hhost
    exact ⟨Access.database_of_capture_error hrefused, .refl desk.files path⟩
  · obtain ⟨host, hcapture, rfl⟩ := onHost_eq_ok.mp hhost
    rcases bind_eq_error.mp h with hfiles | ⟨summary, behind, -, h⟩
    · obtain ⟨cause, files, hsave, -, rfl⟩ := onFiles_eq_error.mp hfiles
      exact ⟨(Access.capture_ok hcapture).2, Snapshot.intact_of_save_error hsave⟩
    · cases h

end DeskWork

namespace Access

/-- **Refused captures**: `refusal` passes `refusal.after` calls of its kind and meets the next one.
A capture of a database with `S` structures and `M` members makes `S` calls to describe structures,
`S` to list members and `M` to describe members (`Database.calls`). If the refusal meets one of them,
the capture ends with its error, whatever error that is; otherwise it is as good as without a
refusal. An export whose capture fails ends with the same error and leaves every file as it was. -/
theorem capture_refused_exactly (database : Database) :
    capture { database } = .ok database.contents { database }
      ∧ (∀ refusal : Refusal,
        (refusal.after < database.calls refusal.call →
          capture { database, refusal := some refusal }
            = .error refusal.error { database })
        ∧ (database.calls refusal.call ≤ refusal.after → ∃ left, left.database = database
          ∧ capture { database, refusal := some refusal } = .ok database.contents left))
      ∧ ∀ (desk : Desk) (error : Database.Error) (host : Host), desk.host.database = database →
        capture desk.host = .error error host → host.database = database
          ∧ ∀ path sync, DeskWork.exportTo path sync desk = .error error { desk with host } := by
  refine ⟨capture_eq_contents database, fun refusal => ⟨fun hmet => ?_, fun hpassed => ?_⟩, ?_⟩
  · exact (makes_capture database (some refusal)).trans (afterCalls_of_lt hmet)
  · exact ⟨_, rfl, (makes_capture database (some refusal)).trans (afterCalls_of_le hpassed)⟩
  · intro desk error host hdatabase hrefused
    exact ⟨(database_of_capture_error hrefused).trans hdatabase,
      DeskWork.exportTo_of_refused hrefused⟩

end Access

/-- Two structures with three members. -/
def pairDatabase : Database where
  structures := [
    { name := "p", size := 8, members := [
      { offset := 4, name := "y", size := 4 }, { offset := 0, name := "x", size := 4 }] },
    { name := "q", size := 4, members := [{ offset := 0, name := "z", size := 4 }] }]

/-- The third member is lost between two calls: its handle is listed, and unknown when it is to be
described. -/
def lostMember : Refusal where
  call := .describeMember
  after := 2
  error := .unknownMember ⟨⟨1⟩, 0⟩

namespace Access

/-- The third member is the last one that can be refused. -/
theorem capture_refused_exactly_pairDatabase :
    capture { database := pairDatabase, refusal := some lostMember }
        = .error (.unknownMember ⟨⟨1⟩, 0⟩) { database := pairDatabase }
      ∧ (∃ left, left.database = pairDatabase
        ∧ capture { database := pairDatabase, refusal := some { lostMember with after := 3 } }
          = .ok pairDatabase.contents left)
      ∧ capture { database := pairDatabase, refusal := some ⟨.listMembers, 1, .io .notFound⟩ }
        = .error (.io .notFound) { database := pairDatabase }
      ∧ DeskWork.exportTo ⟨"p.spst"⟩ true {
          host := { database := pairDatabase, refusal := some lostMember }
          files := { entries := [(["p.spst"], .file [0])] } }
        = .error (.unknownMember ⟨⟨1⟩, 0⟩) {
          host := { database := pairDatabase }
          files := { entries := [(["p.spst"], .file [0])] } } := by
  obtain ⟨-, hends, hexports⟩ := capture_refused_exactly pairDatabase
  have hlost := (hends lostMember).1 (by decide)
  have hpassed := (hends { lostMember with after := 3 }).2 (by decide)
  have hunlisted := (hends ⟨.listMembers, 1, .io .notFound⟩).1 (by decide)
  exact ⟨hlost, hpassed, hunlisted, (hexports _ _ _ rfl hlost).2 _ _⟩

end Access

end StructVault
