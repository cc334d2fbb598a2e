import StructVault.Proofs.Database.File
import StructVault.Proofs.Program.Run
import StructVault.Proofs.Transfer.Updates

/-!
# Loading a snapshot into a database file

The command looks at the old database, decodes the snapshot, lays the structures out as a database
and replaces the file. `Task.LoadEnding` lists how that can end: one way for each step that may
fail, in their order, and one for success. Nothing is written before the last step, and that step
either replaces the file or leaves it alone.

- `Task.ends_load`: the command ends in one of these ways, whatever the journal shows.
- `Program.run_load`: the whole program, from the words of the command line to the exit code.
-/

namespace StructVault

open Steps

/-! ## The ways to end -/

namespace Task

/-- No database is in the way, or it is one that can be opened. -/
def Opens (files : FileTree) (database : Path) : Prop :=
  files.reaches database = false ∨ ∃ old, Database.load files database = .ok old

/-- How a load ends, and the files it leaves. -/
inductive LoadEnding (files : FileTree) (snapshot database : Path) (verifyChecksum : Bool) :
    Except Failure Printed → FileTree → Prop where
  /-- There is an old database, and it cannot be opened. -/
  | unopened {error : Database.Error} (hthere : files.reaches database = true)
      (hopen : Database.load files database = .error error) :
      LoadEnding files snapshot database verifyChecksum
        (.error (.ofStep s!"load database {database.text}" error)) files
  /-- The snapshot cannot be loaded. -/
  | unread {error : Snapshot.Error} (hopens : Opens files database)
      (hread : Snapshot.load files snapshot verifyChecksum = .error error) :
      LoadEnding files snapshot database verifyChecksum
        (.error (.ofStep s!"load snapshot {snapshot.text}" (.snapshot error))) files
  /-- The structures of the snapshot are no valid database. -/
  | refused {structures : List Structure} {error : Database.Error} (hopens : Opens files database)
      (hread : Snapshot.load files snapshot verifyChecksum = .ok structures)
      (hrefused : Database.ofStructures structures = .error error) :
      LoadEnding files snapshot database verifyChecksum
        (.error (.ofStep s!"load snapshot {snapshot.text}" error)) files
  /-- The file of the database cannot be replaced. -/
  | unsaved {structures : List Structure} {content : Database} {error : Database.Error}
      {left : FileTree} (hopens : Opens files database)
      (hread : Snapshot.load files snapshot verifyChecksum = .ok structures)
      (htaken : Database.ofStructures structures = .ok content)
      (hsave : Database.save files database content = (.error error, left)) :
      LoadEnding files snapshot database verifyChecksum
        (.error (.ofStep s!"save database {database.text}" error)) left
  /-- The structures are in the file. -/
  | loaded {structures : List Structure} {content : Database} {left : FileTree}
      (hopens : Opens files database)
      (hread : Snapshot.load files snapshot verifyChecksum = .ok structures)
      (htaken : Database.ofStructures structures = .ok content)
      (hsave : Database.save files database content = (.ok (), left)) :
      LoadEnding files snapshot database verifyChecksum
        (.ok (importText (ImportReport.of snapshot structures) database)) left

variable {files left : FileTree} {snapshot database : Path} {verifyChecksum : Bool}
  {result : Except Failure Printed}

/-- What is left to do once the old database has been looked at. -/
def exchange (snapshot database : Path) (verifyChecksum : Bool) : Work Failure Printed := do
  let (content, report) ← Work.mapError (Failure.ofStep s!"load snapshot {snapshot.text}")
    (importFrom snapshot verifyChecksum)
  Work.mapError (Failure.ofStep s!"save database {database.text}")
    (Work.replacing database fun files => Database.save files database content)
  return importText report database

theorem load_eq (snapshot database : Path) (verifyChecksum : Bool) :
    load snapshot database verifyChecksum = Work.within (Told.loading snapshot) (do
      if (← get).files.reaches database then
        let _ ← openDatabase database
        exchange snapshot database verifyChecksum
      else
        Work.tell (Told.databaseMissing database)
        exchange snapshot database verifyChecksum) := rfl

/-- The snapshot is loaded and its structures are laid out; no file is changed. -/
theorem ends_importFrom (files : FileTree) (snapshot : Path) (verifyChecksum : Bool) :
    Ends (importFrom snapshot verifyChecksum) files
      (match Snapshot.load files snapshot verifyChecksum with
        | .error error => .error (.snapshot error)
        | .ok structures => (Database.ofStructures structures).map fun content =>
          (content, ImportReport.of snapshot structures)) files := by
  refine Ends.within ?_ (Told.importing snapshot)
  have hread := ends_readSnapshot files snapshot verifyChecksum
  cases hload : Snapshot.load files snapshot verifyChecksum with
  | error error =>
    rw [hload] at hread
    exact hread.bind_error _
  | ok structures =>
    rw [hload] at hread
    refine hread.bind ?_
    have htaken := Ends.ofExcept (Database.ofStructures structures) files
    show Ends _ files ((Database.ofStructures structures).map _) files
    cases hlist : Database.ofStructures structures with
    | error error =>
      rw [hlist] at htaken
      exact htaken.bind_error _
    | ok content =>
      rw [hlist] at htaken
      exact htaken.bind ((Ends.tell _ files).bind (Ends.pure _ files))

theorem ends_exchange (snapshot : Path) (verifyChecksum : Bool) (hopens : Opens files database) :
    ∃ result left, LoadEnding files snapshot database verifyChecksum result left
      ∧ Ends (exchange snapshot database verifyChecksum) files result left := by
  have himport := (ends_importFrom files snapshot verifyChecksum).mapError
    (Failure.ofStep s!"load snapshot {snapshot.text}")
  -- the first step that fails decides how the load ends, and what is behind it is never run
  cases hread : Snapshot.load files snapshot verifyChecksum with
  | error error =>
    rw [hread] at himport
    exact ⟨_, _, .unread hopens hread, himport.bind_error _⟩
  | ok structures =>
    rw [hread] at himport
    cases htaken : Database.ofStructures structures with
    | error error =>
      simp only [htaken] at himport
      exact ⟨_, _, .refused hopens hread htaken, himport.bind_error _⟩
    | ok content =>
      simp only [htaken] at himport
      cases hsave : Database.save files database content with
      | mk saved left =>
        have hreplaced : Ends (Work.replacing database fun files =>
            Database.save files database content) files saved left := Ends.replacing hsave
        have hreplacing := hreplaced.mapError (Failure.ofStep s!"save database {database.text}")
        cases saved with
        | error error =>
          exact ⟨_, _, .unsaved hopens hread htaken hsave, himport.bind (hreplacing.bind_error _)⟩
        | ok done =>
          exact ⟨_, _, .loaded hopens hread htaken hsave,
            himport.bind (hreplacing.bind (Ends.pure _ left))⟩

/-- **A load** ends in one of the five ways, whatever a journal on the error output shows. -/
theorem ends_load (files : FileTree) (snapshot database : Path) (verifyChecksum : Bool) :
    ∃ result left, LoadEnding files snapshot database verifyChecksum result left
      ∧ Ends (load snapshot database verifyChecksum) files result left := by
  have hopening := (Ends.reading (fun files => Database.load files database) files).mapError
    (Failure.ofStep s!"load database {database.text}")
  rw [load_eq]
  cases hthere : files.reaches database with
  | false =>
    obtain ⟨result, left, hending, hexchange⟩ :=
      ends_exchange snapshot verifyChecksum (Or.inl hthere)
    refine ⟨result, left, hending, (Ends.get fun journal => ?_).within _⟩
    rw [if_neg (by simp [hthere])]
    exact (Ends.tell _ files).bind hexchange
  | true =>
    cases hopen : Database.load files database with
    | error error =>
      rw [hopen] at hopening
      refine ⟨_, _, .unopened hthere hopen, (Ends.get fun journal => ?_).within _⟩
      rw [if_pos hthere]
      exact hopening.bind_error _
    | ok old =>
      rw [hopen] at hopening
      obtain ⟨result, left, hending, hexchange⟩ :=
        ends_exchange snapshot verifyChecksum (Or.inr ⟨old, hopen⟩)
      refine ⟨result, left, hending, (Ends.get fun journal => ?_).within _⟩
      rw [if_pos hthere]
      exact hopening.bind hexchange

/-! ## What the files tell about the end -/

/-- When a snapshot can be loaded into a database file: no old database is in the way, or the file
holds a valid one; the snapshot holds structures that are a valid database; and the file can be
replaced. -/
structure Loadable (files : FileTree) (snapshot database : Path) (verifyChecksum : Bool) : Prop where
  opens : files.reaches database = false ∨ ∃ text old,
    files.read database = .ok (Text.encode text) ∧ Database.ofJsonText text = .ok old
      ∧ Valid old.structures
  taken : ∃ data structures, files.read snapshot = .ok data
    ∧ Snapshot.decode verifyChecksum data = .ok structures
    ∧ Valid (structures.map StoredStructure.layOut)
  replaceable : files.Replaceable database

theorem opens_iff : Opens files database ↔ files.reaches database = false ∨ ∃ text old,
    files.read database = .ok (Text.encode text) ∧ Database.ofJsonText text = .ok old
      ∧ Valid old.structures := by
  unfold Opens
  simp only [Database.load_eq_ok]
  rw [exists_comm]

/-- What a path leads to decides whether a database may be put there. -/
theorem Opens.congr (h : Opens files database)
    (hentry : left.entry? database = files.entry? database) : Opens left database := by
  rw [opens_iff] at h ⊢
  rw [FileTree.reaches_eq, hentry, ← FileTree.reaches_eq]
  simpa only [FileTree.read_congr hentry] using h

namespace LoadEnding

/-- A load that fails leaves the database file intact. -/
theorem intact_of_error {failure : Failure}
    (h : LoadEnding files snapshot database verifyChecksum (.error failure) left) :
    files.Intact left database := by
  cases h with
  | unopened => exact .refl files database
  | unread => exact .refl files database
  | refused => exact .refl files database
  | unsaved _ _ _ hsave => exact Database.intact_of_save_error hsave

/-- A load that succeeds saves the structures of the snapshot as a database. -/
theorem saved_of_ok {printed : Printed}
    (h : LoadEnding files snapshot database verifyChecksum (.ok printed) left) :
    ∃ data structures content, files.read snapshot = .ok data
      ∧ Snapshot.decode verifyChecksum data = .ok structures
      ∧ Database.ofStructures structures = .ok content
      ∧ Database.save files database content = (.ok (), left) := by
  cases h with
  | loaded _ hread htaken hsave =>
    obtain ⟨data, hdata, hdecode⟩ := Snapshot.load_eq_ok.mp hread
    exact ⟨data, _, _, hdata, hdecode, htaken, hsave⟩

/-- A load that succeeds leaves a database file of the structures in the snapshot. -/
theorem load_of_ok {printed : Printed}
    (h : LoadEnding files snapshot database verifyChecksum (.ok printed) left) :
    ∃ data structures content, files.read snapshot = .ok data
      ∧ Snapshot.decode verifyChecksum data = .ok structures
      ∧ Database.ofStructures structures = .ok content
      ∧ Database.load left database = .ok content := by
  obtain ⟨data, structures, content, hdata, hdecode, htaken, hsave⟩ := h.saved_of_ok
  obtain ⟨hvalid, rfl⟩ := Database.ofStructures_eq_ok.mp htaken
  exact ⟨data, structures, _, hdata, hdecode, htaken, Database.load_of_save hvalid hsave⟩

/-- Whether a load succeeds is decided by the files it begins with. -/
theorem isOk_iff (h : LoadEnding files snapshot database verifyChecksum result left) :
    result.isOk = true ↔ Loadable files snapshot database verifyChecksum := by
  constructor
  · intro hok
    cases h with
    | loaded hopens hread htaken hsave =>
      obtain ⟨data, hdata, hdecode⟩ := Snapshot.load_eq_ok.mp hread
      exact ⟨opens_iff.mp hopens,
        ⟨data, _, hdata, hdecode, (Database.ofStructures_eq_ok.mp htaken).1⟩,
        Database.exists_save_eq_ok_iff.mp ⟨_, hsave⟩⟩
    | unopened => cases hok
    | unread => cases hok
    | refused => cases hok
    | unsaved => cases hok
  · rintro ⟨hopens, ⟨data, structures, hdata, hdecode, hvalid⟩, hreplaceable⟩
    have hload := Snapshot.load_eq_ok.mpr ⟨data, hdata, hdecode⟩
    have hlist := Database.ofStructures_eq_ok.mpr ⟨hvalid, rfl⟩
    cases h with
    | unopened hthere hopen =>
      rcases opens_iff.mpr hopens with hmissing | ⟨old, hold⟩
      · cases hmissing.symm.trans hthere
      · cases hold.symm.trans hopen
    | unread _ hread => cases hload.symm.trans hread
    | refused _ hread hrefused =>
      cases hload.symm.trans hread
      cases hlist.symm.trans hrefused
    | unsaved _ _ _ hsave =>
      obtain ⟨left', hsaved⟩ := Database.exists_save_eq_ok_iff.mpr hreplaceable
      cases hsaved.symm.trans hsave
    | loaded => rfl

end LoadEnding

end Task

/-! ## The program -/

namespace Program

variable {words : List String} {snapshot database : Path} {verifyChecksum : Bool}
  {options : Options}

/-- **Loading is all or nothing.** Without a log file, whatever is logged and how, a run that fails
leaves the database file intact, and one that succeeds leaves the database of the decoded list,
which gives that list when it is captured. Which of the two it is, the files decide. -/
theorem run_load (hparse : CommandLine.parse words
      = .ok { request := .load snapshot database verifyChecksum, options })
    (hfile : options.file = none) (environment : Option String) (time : String)
    (files : FileTree) : ∃ ending, run words environment time files = .ok ending
      ∧ (ending.exitCode = 0 ∨ ending.exitCode = 1)
      ∧ (ending.exitCode = 1 → files.Intact ending.files database)
      ∧ (ending.exitCode = 0 → ∃ data structures content, files.read snapshot = .ok data
        ∧ Snapshot.decode verifyChecksum data = .ok structures
        ∧ Database.ofStructures structures = .ok content
        ∧ Database.load ending.files database = .ok content
        ∧ Access.capture { database := content } = .ok structures { database := content })
      ∧ (ending.exitCode = 0 ↔ Task.Loadable files snapshot database verifyChecksum) := by
  have hconsole : options.logConfig.file = none := hfile
  obtain ⟨journal, hquiet, hstart⟩ := start_of_file_eq_none hconsole environment time files
  obtain ⟨result, left, hending, hends⟩ := Task.ends_load files snapshot database verifyChecksum
  obtain ⟨behind, -, htask⟩ := hends journal hquiet
  refine ⟨Ending.of (settle result { files := left, journal := behind }), ?_, ?_⟩
  · have hperform : perform { request := .load snapshot database verifyChecksum, options } environment
        time files = Ending.of (Task.load snapshot database verifyChecksum { files, journal }) := by
      unfold perform
      rw [hstart]
      rfl
    unfold run
    rw [hparse]
    exact congrArg Except.ok (hperform.trans (congrArg Ending.of htask))
  · have hdecided := hending.isOk_iff
    cases result with
    | error failure =>
      have hcode : (Ending.of (settle (.error failure) { files := left, journal := behind })).exitCode
        = 1 := rfl
      have hfailed : ¬ Task.Loadable files snapshot database verifyChecksum := by
        intro h
        cases hdecided.mpr h
      refine ⟨Or.inr hcode, fun _ => hending.intact_of_error, ?_, ?_⟩
      · intro h
        cases hcode.symm.trans h
      · constructor
        · intro h
          cases hcode.symm.trans h
        · intro h
          exact absurd h hfailed
    | ok printed =>
      have hcode : (Ending.of (settle (.ok printed) { files := left, journal := behind })).exitCode
        = 0 := rfl
      obtain ⟨data, structures, content, hdata, hdecode, htaken, hload⟩ := hending.load_of_ok
      refine ⟨Or.inl hcode, ?_, fun _ => ⟨data, structures, content, hdata, hdecode, htaken, hload, ?_⟩,
        fun _ => hdecided.mp rfl, fun _ => hcode⟩
      · intro h
        cases hcode.symm.trans h
      · -- offsets are not captured, so laying the list out afresh does not show
        obtain ⟨-, rfl⟩ := Database.ofStructures_eq_ok.mp htaken
        have hcapture := Access.capture_eq_contents
          { structures := structures.map StoredStructure.layOut }
        rw [Database.contents_layOut] at hcapture
        exact hcapture

/-- A directory with a snapshot in it. -/
def snapshotTree (bytes : Bytes) : FileTree where
  entries := [(["a.spst"], .file bytes)]

theorem loadable_snapshotTree {bytes : Bytes} (hencode : Snapshot.encode pairList = .ok bytes) :
    Task.Loadable (snapshotTree bytes) ⟨"a.spst"⟩ ⟨"db.json"⟩ true where
  opens := Or.inl rfl
  taken := ⟨bytes, pairList, rfl, Snapshot.decode_of_encode hencode true,
    firstBreach_eq_none_iff.mp (by decide)⟩
  replaceable := {
    located := ⟨[], "db.json", rfl, by decide, rfl, rfl⟩
    sibling_reached := ⟨⟨".db.json.tmp"⟩, rfl, rfl⟩ }

theorem run_load_snapshotTree : ∃ bytes ending,
    run ["-v", "load", "a.spst", "--database", "db.json", "--log-format", "json"] (some "debug")
        "2001-02-03" (snapshotTree bytes) = .ok ending
      ∧ Snapshot.encode pairList = .ok bytes ∧ ending.exitCode = 0
      ∧ ∃ content, Database.load ending.files ⟨"db.json"⟩ = .ok content
        ∧ Access.capture { database := content } = .ok pairList { database := content } := by
  obtain ⟨bytes, hencode⟩ : ∃ bytes, Snapshot.encode pairList = .ok bytes := ⟨_, rfl⟩
  have hparse : CommandLine.parse
      ["-v", "load", "a.spst", "--database", "db.json", "--log-format", "json"]
      = .ok { request := .load ⟨"a.spst"⟩ ⟨"db.json"⟩ true,
              options := { louder := 1, layout := .json } } := rfl
  obtain ⟨ending, hrun, -, -, hloaded, hdecided⟩ :=
    run_load hparse rfl (some "debug") "2001-02-03" (snapshotTree bytes)
  have hcode := hdecided.mpr (loadable_snapshotTree hencode)
  obtain ⟨data, structures, content, hdata, hdecode, -, hload, hcapture⟩ := hloaded hcode
  have hread : (snapshotTree bytes).read ⟨"a.spst"⟩ = .ok bytes := rfl
  cases hread.symm.trans hdata
  cases (Snapshot.decode_of_encode hencode true).symm.trans hdecode
  exact ⟨bytes, ending, hrun, hencode, hcode, content, hload, hcapture⟩

end Program

end StructVault
