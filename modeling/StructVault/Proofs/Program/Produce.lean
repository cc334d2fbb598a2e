import StructVault.Proofs.Database.File
import StructVault.Proofs.Program.Run

/-!
# Producing a snapshot of a database file

The command loads the database, captures it, and replaces the file of the snapshot. It fails where
the database cannot be opened or its snapshot cannot be saved (`Task.ProduceEnding`), and journals
on the way what it captured, which no file shows. A run that succeeds leaves the encoding of the
contents of a valid database (`Program.run_produce`).
-/

namespace StructVault

namespace Task

/-- How a production ends, and the files it leaves. -/
inductive ProduceEnding (files : FileTree) (database output : Path) (sync : Bool) :
    Except Failure Printed → FileTree → Prop where
  /-- The database cannot be opened. -/
  | unopened {error : Database.Error} (hopen : Database.load files database = .error error) :
      ProduceEnding files database output sync
        (.error (.ofStep s!"load database {database.text}" error)) files
  /-- The snapshot cannot be saved. -/
  | unsaved {source : Database} {error : Snapshot.Error} {left : FileTree}
      (hopen : Database.load files database = .ok source)
      (hsave : Snapshot.save files output source.contents sync = (.error error, left)) :
      ProduceEnding files database output sync
        (.error (.ofStep s!"write snapshot {output.text}" (.snapshot error))) left
  /-- The contents of the database are in the file. -/
  | produced {source : Database} {summary : Snapshot.Summary} {left : FileTree}
      (hopen : Database.load files database = .ok source)
      (hsave : Snapshot.save files output source.contents sync = (.ok summary, left)) :
      ProduceEnding files database output sync (.ok (exportText { path := output, summary })) left

variable {files left : FileTree} {database output : Path} {sync : Bool}
  {result : Except Failure Printed}

/-- An export ends as the save of the contents does. -/
theorem ends_exportTo {source : Database} {saved : Except Snapshot.Error Snapshot.Summary}
    (hsave : Snapshot.save files output source.contents sync = (saved, left)) :
    Ends (exportTo source output sync) files
      ((saved.map fun summary => { path := output, summary }).mapError .snapshot) left := by
  refine Ends.within ((Ends.tellAll _ files).bind ?_) (Told.exporting output)
  -- behind a save that fails nothing more is told
  cases saved with
  | error error =>
    refine Ends.bind_error (Ends.replacing ?_) _
    rw [hsave]
    rfl
  | ok summary =>
    refine Ends.bind (Ends.replacing ?_) ((Ends.tellAll _ left).bind
      ((Ends.tell _ left).bind ((Ends.tell _ left).bind (Ends.pure _ left))))
    rw [hsave]
    rfl

/-- **A production** ends in one of the three ways, whatever a journal on the error output shows. -/
theorem ends_produce (files : FileTree) (database output : Path) (sync : Bool) :
    ∃ result left, ProduceEnding files database output sync result left
      ∧ Ends (produce database output sync) files result left := by
  have hopening := (Ends.reading (fun files => Database.load files database) files).mapError
    (Failure.ofStep s!"load database {database.text}")
  cases hopen : Database.load files database with
  | error error =>
    rw [hopen] at hopening
    exact ⟨_, _, .unopened hopen, (hopening.bind_error _).within _⟩
  | ok source =>
    rw [hopen] at hopening
    cases hsave : Snapshot.save files output source.contents sync with
    | mk saved left =>
      have hexport := (ends_exportTo hsave).mapError
        (Failure.ofStep s!"write snapshot {output.text}")
      cases saved with
      | error error =>
        refine ⟨_, _, .unsaved hopen hsave, (hopening.bind ?_).within _⟩
        exact (Ends.tell _ files).bind (hexport.bind_error _)
      | ok summary =>
        refine ⟨_, _, .produced hopen hsave, (hopening.bind ?_).within _⟩
        exact (Ends.tell _ files).bind (hexport.bind (Ends.pure _ left))

/-- The files hold a database that fits into a snapshot, the encoding of its contents. -/
def Exportable (files : FileTree) (database : Path) (bytes : Bytes) : Prop :=
  ∃ source, Database.load files database = .ok source
    ∧ Snapshot.encode source.contents = .ok bytes

namespace ProduceEnding

/-- A production that succeeds replaced the file by the encoding of the contents. -/
theorem replaced_of_ok {printed : Printed}
    (h : ProduceEnding files database output sync (.ok printed) left) : ∃ bytes,
      Exportable files database bytes
        ∧ files.replaceFile output bytes sync = (.ok (), left) := by
  cases h with
  | produced hopen hsave =>
    obtain ⟨bytes, hencode, hreplace, -⟩ := Snapshot.save_eq_ok.mp hsave
    exact ⟨bytes, ⟨_, hopen, hencode⟩, hreplace⟩

/-- Whether a production succeeds is decided by the files it begins with. -/
theorem isOk_iff (h : ProduceEnding files database output sync result left) :
    result.isOk = true ↔ (∃ bytes, Exportable files database bytes)
      ∧ files.Replaceable output := by
  constructor
  · intro hok
    cases result with
    | error failure => cases hok
    | ok printed =>
      obtain ⟨bytes, hexportable, hreplace⟩ := h.replaced_of_ok
      exact ⟨⟨bytes, hexportable⟩, FileTree.exists_replaceFile_eq_ok_iff.mp ⟨_, hreplace⟩⟩
  · rintro ⟨⟨bytes, source, hsource, hencode⟩, hreplaceable⟩
    cases h with
    | unopened hopen => cases hsource.symm.trans hopen
    | unsaved hopen hsave =>
      cases hsource.symm.trans hopen
      obtain ⟨left', hreplace⟩ := FileTree.exists_replaceFile_eq_ok_iff.mpr hreplaceable
      have hsaved := Snapshot.save_eq_ok.mpr ⟨bytes, hencode, hreplace, rfl⟩
      cases hsaved.symm.trans hsave
    | produced => rfl

end ProduceEnding

end Task

namespace Program

/-- **Producing** goes well exactly where there is a valid database that fits into a snapshot, and
the file of the snapshot can be replaced. It is then replaced by the encoding of the contents. -/
theorem run_produce {words : List String} {database output : Path} {sync : Bool}
    (hasks : Asks words (.produce database output sync)) (environment : Option String)
    (time : String) (files : FileTree) : ∃ ending, run words environment time files = .ok ending
      ∧ (ending.exitCode = 0 ↔ (∃ bytes, Task.Exportable files database bytes)
        ∧ files.Replaceable output)
      ∧ (ending.exitCode = 0 → ∃ bytes, Task.Exportable files database bytes
        ∧ files.replaceFile output bytes sync = (.ok (), ending.files)) := by
  obtain ⟨result, left, hending, hends⟩ := Task.ends_produce files database output sync
  obtain ⟨ending, hrun, rfl, hcode⟩ := run_of_ends hasks hends environment time
  refine ⟨ending, hrun, hcode.trans hending.isOk_iff, fun hzero => ?_⟩
  cases result with
  | error failure => cases hcode.mp hzero
  | ok printed => exact hending.replaced_of_ok

end Program

end StructVault
