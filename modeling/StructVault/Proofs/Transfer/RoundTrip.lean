import StructVault.Proofs.Transfer.Exports

/-!
# From one database to another

What one host exported, another one imports, and then both hold the same structures
(`importFrom_of_exportTo`). The file in between is the encoding of what was captured, and the
second host stores the captured list laid out afresh: offsets, gaps and spelled-out unknown types
of the first host are gone, but a capture does not show them.
-/

namespace StructVault

/-- Once it is captured from a valid database, a list is taken by every host. -/
theorem Access.replaceStructures_contents {source : Database} (h : Valid source.structures)
    (target : Database) : Access.replaceStructures source.contents { database := target }
      = .ok () { database := { structures := source.contents.map StoredStructure.layOut } } :=
  Access.replaceStructures_eq_ok.mpr
    ⟨firstBreach_eq_none_iff.mpr (valid_layOut_contents h), rfl⟩

/-- **Transfer**: what a valid database exports is imported into any database, with or without a
look at the checksum, and is as many structures and members as were reported. The two databases
then give the same captures, and what the second one exports is the same file again. -/
theorem DeskWork.importFrom_of_exportTo {source : Database} (hvalid : Valid source.structures)
    {path : Path} {sync : Bool} {files : FileTree} {report : ExportReport} {written : Desk}
    (h : exportTo path sync { host := { database := source }, files } = .ok report written) :
    ∃ structures bytes, Access.capture { database := source } = .ok structures { database := source }
      ∧ written.files.read path = .ok bytes
      ∧ ∀ (target : Database) (verifyChecksum : Bool), ∃ loaded : Database,
        importFrom path verifyChecksum { host := { database := target }, files := written.files }
          = .ok { path, structures := report.summary.structures, members := report.summary.members }
            { host := { database := loaded }, files := written.files }
        ∧ Access.capture { database := loaded } = .ok structures { database := loaded }
        ∧ ∀ files' path' sync' report' again,
          exportTo path' sync' { host := { database := loaded }, files := files' }
            = .ok report' again → again.files.read path' = .ok bytes := by
  obtain ⟨bytes, replaced, hencode, hreplace, rfl, rfl⟩ := exportTo_eq_ok.mp h
  refine ⟨source.contents, bytes, Access.capture_eq_contents source,
    FileTree.read_of_replaceFile hreplace, fun target verifyChecksum =>
      ⟨{ structures := source.contents.map StoredStructure.layOut }, ?_, ?_, ?_⟩⟩
  · exact importFrom_eq_ok.mpr ⟨source.contents, _,
      Snapshot.load_of_save hencode hreplace verifyChecksum,
      Access.replaceStructures_contents hvalid target, rfl, rfl⟩
  · have hcapture := Access.capture_eq_contents
      { structures := source.contents.map StoredStructure.layOut }
    rw [Database.contents_layOut] at hcapture
    exact hcapture
  · -- the second host is captured as the same list, which has one encoding
    intro files' path' sync' report' again hagain
    obtain ⟨bytes', replaced', hencode', hreplace', rfl, -⟩ := exportTo_eq_ok.mp hagain
    rw [Database.contents_layOut, hencode] at hencode'
    cases hencode'
    exact FileTree.read_of_replaceFile hreplace'

/-- A member behind another one in the store but in front of it by offset, two members at one
offset, a gap, and an unknown type that is spelled out. -/
def scatteredDatabase : Database where
  structures := [
    { name := "s", comment := "c", size := 24, members := [
      { offset := 16, name := "b", typeName := some "undefined", size := 4 },
      { offset := 0, name := "a", typeName := some "int", size := 4 },
      { offset := 16, name := "c", size := 0 }] },
    { name := "t", size := 0 }]

/-- What the scattered database gives when it is captured. -/
def scatteredList : List Structure :=
  [{ name := "s", comment := "c", size := 24, members := [
      { name := "a", typeName := "int", size := 4 },
      { name := "b", typeName := "undefined", size := 4 },
      { name := "c", typeName := "undefined", size := 0 }] },
    { name := "t", size := 0 }]

theorem contents_scatteredDatabase : scatteredDatabase.contents = scatteredList := by
  simp [Database.contents, StoredStructure.contents, StoredStructure.byOffset, List.mergeSort,
    StoredMember.contents, Member.undefinedType, scatteredDatabase, scatteredList]

theorem DeskWork.importFrom_scatteredDatabase : Valid scatteredDatabase.structures
    ∧ ∃ report written, exportTo ⟨"s.spst"⟩ true
        { host := { database := scatteredDatabase },
          files := { entries := [(["s.spst"], .file [0])] } } = .ok report written
      ∧ ∀ (target : Database) (verifyChecksum : Bool), ∃ loaded : Database,
        importFrom ⟨"s.spst"⟩ verifyChecksum
            { host := { database := target }, files := written.files }
          = .ok { path := ⟨"s.spst"⟩, structures := 2, members := 3 }
            { host := { database := loaded }, files := written.files }
        ∧ Access.capture { database := loaded } = .ok scatteredList { database := loaded } := by
  have hvalid : Valid scatteredDatabase.structures := firstBreach_eq_none_iff.mp (by decide)
  obtain ⟨bytes, hencode⟩ : ∃ bytes, Snapshot.encode scatteredList = .ok bytes := ⟨_, rfl⟩
  rw [← contents_scatteredDatabase] at hencode
  obtain ⟨replaced, hreplace⟩ : ∃ replaced, FileTree.replaceFile
      { entries := [(["s.spst"], .file [0])] } ⟨"s.spst"⟩ bytes true = (.ok (), replaced) := ⟨_, rfl⟩
  have hexport := exportTo_eq_ok.mpr ⟨bytes, replaced, hencode, hreplace, rfl, rfl⟩
  refine ⟨hvalid, _, _, hexport, fun target verifyChecksum => ?_⟩
  obtain ⟨structures, _, hcapture, -, htarget⟩ := importFrom_of_exportTo hvalid hexport
  rw [Access.capture_eq_contents, contents_scatteredDatabase] at hcapture
  cases hcapture
  obtain ⟨loaded, himport, hloaded, -⟩ := htarget target verifyChecksum
  rw [contents_scatteredDatabase] at himport
  exact ⟨loaded, himport, hloaded⟩

end StructVault
