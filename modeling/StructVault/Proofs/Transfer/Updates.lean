import StructVault.Proofs.Transfer.Calls

/-!
# All or nothing

An update of a host, be it an import or a list handed over directly, either leaves exactly the
database of the list it offered or leaves the database alone, whatever made it fail
(`Update.perform_ok`, `Update.perform_error`). Over a run of updates the database is therefore that
of the last one that succeeded, and nothing earlier shows in it (`Turn.run_cases`).

Between two updates anything may happen to the files, and a refusal may be armed. A `Turn` is an
update together with the files and the refusal it meets, so a list of turns is any run at all.
-/

namespace StructVault

open Steps

/-! ## Updates and runs -/

/-- A call that offers structures to a host. -/
inductive Update where
  | importFrom (path : Path) (verifyChecksum : Bool)
  | replaceStructures (structures : List Structure)
  deriving DecidableEq, Repr

namespace Update

/-- The call at a desk. -/
def work : Update → DeskWork Unit
  | importFrom path verifyChecksum => do let _ ← DeskWork.importFrom path verifyChecksum
  | replaceStructures structures => DeskWork.onHost (Access.replaceStructures structures)

/-- The structures that the call offers: those in the snapshot, or those it was given. -/
def offered (files : FileTree) : Update → Except Snapshot.Error (List Structure)
  | importFrom path verifyChecksum => Snapshot.load files path verifyChecksum
  | replaceStructures structures => .ok structures

end Update

/-- An update with the files and the refusal that it meets. -/
structure Turn where
  files : FileTree
  refusal : Option Refusal := none
  update : Update
  deriving DecidableEq, Repr

namespace Turn

/-- How the update ends on a database, and the database it leaves. -/
def take (turn : Turn) (database : Database) : Except Database.Error Unit × Database :=
  match turn.update.work
      { host := { database, refusal := turn.refusal }, files := turn.files } with
  | .ok () left => (.ok (), left.host.database)
  | .error error left => (.error error, left.host.database)

/-- The database that is left after some turns. -/
def run : List Turn → Database → Database
  | [], database => database
  | turn :: rest, database => run rest (turn.take database).2

/-- Every turn of a run fails. -/
def AllFail : List Turn → Database → Prop
  | [], _ => True
  | turn :: rest, database =>
    (∃ error, (turn.take database).1 = .error error) ∧ AllFail rest (turn.take database).2

end Turn

/-! ## Single updates -/

namespace Database

variable {structures : List Structure} {database : Database}

/-- As many members are stored as the list has. -/
theorem sum_members_of_ofStructures (h : ofStructures structures = .ok database) :
    (database.structures.map (·.members.length)).sum = memberCount structures := by
  obtain ⟨-, rfl⟩ := ofStructures_eq_ok.mp h
  have hone : ∀ struct : Structure,
      (StoredStructure.layOut struct).members.length = struct.members.length := by
    intro struct
    calc (StoredStructure.layOut struct).members.length
        = ((StoredStructure.placeFrom 0 struct.members).map StoredMember.contents).length :=
          (List.length_map _).symm
      _ = struct.members.length := by rw [StoredStructure.map_contents_placeFrom]
  show ((structures.map StoredStructure.layOut).map _).sum = (structures.map _).sum
  rw [List.map_map]
  exact congrArg List.sum (List.map_congr_left fun struct _ => hone struct)

theorem size_of_ofStructures (h : ofStructures structures = .ok database) :
    database.size = structures.length := by
  obtain ⟨-, rfl⟩ := ofStructures_eq_ok.mp h
  exact List.length_map _

end Database

namespace DeskWork

variable {desk left : Desk} {path : Path} {verifyChecksum : Bool}

/-- An import that fails, for whatever reason, leaves the database and the files alone. -/
theorem database_of_importFrom_error {error : Database.Error}
    (h : importFrom path verifyChecksum desk = .error error left) :
    left.host.database = desk.host.database ∧ left.files = desk.files := by
  rcases importFrom_eq_error.mp h with ⟨-, -, -, rfl⟩ | ⟨structures, host, -, hreplace, rfl⟩
  · exact ⟨rfl, rfl⟩
  · exact ⟨Access.database_of_replaceStructures_error hreplace, rfl⟩

/-- An import that succeeds leaves the database of the decoded list, and reports its counts. -/
theorem importFrom_ok {report : ImportReport}
    (h : importFrom path verifyChecksum desk = .ok report left) : ∃ data structures,
      desk.files.read path = .ok data ∧ Snapshot.decode verifyChecksum data = .ok structures
        ∧ Database.ofStructures structures = .ok left.host.database
        ∧ left.files = desk.files ∧ report = ImportReport.of path structures := by
  obtain ⟨structures, host, hload, hreplace, rfl, rfl⟩ := importFrom_eq_ok.mp h
  obtain ⟨data, hread, hdecode⟩ := Snapshot.load_eq_ok.mp hload
  exact ⟨data, structures, hread, hdecode, Access.replaceStructures_ok hreplace, rfl, rfl⟩

end DeskWork

namespace Update

variable {update : Update} {desk left : Desk}

/-- A call that succeeds leaves the database of what it offered. -/
theorem work_ok (h : update.work desk = .ok () left) : ∃ structures,
    update.offered desk.files = .ok structures
      ∧ Database.ofStructures structures = .ok left.host.database := by
  cases update with
  | importFrom path verifyChecksum =>
    obtain ⟨report, behind, himport, hpure⟩ := bind_eq_ok.mp h
    cases hpure
    obtain ⟨structures, host, hload, hreplace, rfl, -⟩ := DeskWork.importFrom_eq_ok.mp himport
    exact ⟨structures, hload, Access.replaceStructures_ok hreplace⟩
  | replaceStructures structures =>
    obtain ⟨host, hreplace, rfl⟩ := DeskWork.onHost_eq_ok.mp h
    exact ⟨structures, rfl, Access.replaceStructures_ok hreplace⟩

/-- A call that fails leaves the database alone. -/
theorem database_of_work_error {error : Database.Error} (h : update.work desk = .error error left) :
    left.host.database = desk.host.database := by
  cases update with
  | importFrom path verifyChecksum =>
    rcases bind_eq_error.mp h with himport | ⟨report, behind, -, hpure⟩
    · exact (DeskWork.database_of_importFrom_error himport).1
    · cases hpure
  | replaceStructures structures =>
    obtain ⟨host, hreplace, rfl⟩ := DeskWork.onHost_eq_error.mp h
    exact Access.database_of_replaceStructures_error hreplace

end Update

/-! ## Runs of updates -/

namespace Turn

variable {turn : Turn} {database : Database}

theorem take_ok (h : (turn.take database).1 = .ok ()) : ∃ structures,
    turn.update.offered turn.files = .ok structures
      ∧ Database.ofStructures structures = .ok (turn.take database).2 := by
  unfold take at h ⊢
  split at h
  · next left hwork =>
    obtain ⟨structures, hoffered, hdatabase⟩ := Update.work_ok hwork
    exact ⟨structures, hoffered, hdatabase⟩
  · cases h

theorem take_error {error : Database.Error} (h : (turn.take database).1 = .error error) :
    (turn.take database).2 = database := by
  unfold take at h ⊢
  split at h
  · cases h
  · next left hwork => exact Update.database_of_work_error hwork

/-- A run in which every turn fails changes nothing. -/
theorem run_of_allFail : ∀ {turns : List Turn} {database : Database},
    AllFail turns database → run turns database = database
  | [], _, _ => rfl
  | turn :: rest, database, ⟨⟨error, hfail⟩, hrest⟩ => by
    show run rest (turn.take database).2 = database
    rw [run_of_allFail hrest, take_error hfail]

/-- **Runs**: either every turn failed and nothing changed, or there is a last one that succeeded,
and the database is that of the list it offered. -/
theorem run_cases : ∀ (turns : List Turn) (database : Database),
    AllFail turns database ∧ run turns database = database
      ∨ ∃ before turn after structures, turns = before ++ turn :: after
        ∧ (turn.take (run before database)).1 = .ok ()
        ∧ AllFail after (turn.take (run before database)).2
        ∧ turn.update.offered turn.files = .ok structures
        ∧ Database.ofStructures structures = .ok (run turns database)
  | [], _ => Or.inl ⟨trivial, rfl⟩
  | turn :: rest, database => by
    -- a success in the rest is later than one of the first turn, so the rest is asked first
    rcases run_cases rest (turn.take database).2 with
      ⟨hfail, hrun⟩ | ⟨before, last, after, structures, rfl, hlast⟩
    · cases hturn : (turn.take database).1 with
      | error error =>
        have hall : AllFail (turn :: rest) database := ⟨⟨error, hturn⟩, hfail⟩
        exact Or.inl ⟨hall, run_of_allFail hall⟩
      | ok done =>
        obtain ⟨structures, hoffered, hdatabase⟩ := take_ok hturn
        refine Or.inr ⟨[], turn, rest, structures, rfl, hturn, hfail, hoffered, ?_⟩
        show Database.ofStructures structures = .ok (run rest (turn.take database).2)
        rw [hrun, hdatabase]
    · exact Or.inr ⟨turn :: before, last, after, structures, rfl, hlast⟩

end Turn

/-- **All or nothing**: an import that fails leaves the database as it was. One that succeeds leaves
the database of the list in the file, and nothing of what was there, and reports what is stored.
After any run of updates the database is that of the last list that was taken, or the first one if
none was. -/
theorem DeskWork.importFrom_all_or_nothing :
    (∀ path verifyChecksum desk error left,
      importFrom path verifyChecksum desk = .error error left →
        left.host.database = desk.host.database)
    ∧ (∀ path verifyChecksum desk report left,
      importFrom path verifyChecksum desk = .ok report left → ∃ data structures,
        desk.files.read path = .ok data ∧ Snapshot.decode verifyChecksum data = .ok structures
          ∧ Database.ofStructures structures = .ok left.host.database
          ∧ report.structures = left.host.database.structures.length
          ∧ report.members = (left.host.database.structures.map (·.members.length)).sum)
    ∧ ∀ turns initial,
      Turn.AllFail turns initial ∧ Turn.run turns initial = initial
        ∨ ∃ before turn after structures, turns = before ++ turn :: after
          ∧ (turn.take (Turn.run before initial)).1 = .ok ()
          ∧ Turn.AllFail after (turn.take (Turn.run before initial)).2
          ∧ turn.update.offered turn.files = .ok structures
          ∧ Database.ofStructures structures = .ok (Turn.run turns initial) := by
  refine ⟨fun path verifyChecksum desk error left h => (database_of_importFrom_error h).1,
    fun path verifyChecksum desk report left h => ?_, Turn.run_cases⟩
  obtain ⟨data, structures, hread, hdecode, hdatabase, -, rfl⟩ := importFrom_ok h
  exact ⟨data, structures, hread, hdecode, hdatabase,
    (Database.size_of_ofStructures hdatabase).symm,
    (Database.sum_members_of_ofStructures hdatabase).symm⟩

/-- Two structures, one with a member. -/
def pairList : List Structure :=
  [{ name := "a", size := 0 },
    { name := "b", size := 4, members := [{ name := "x", typeName := "int", size := 4 }] }]

/-- A host with another structure, and a file with the given bytes. -/
def pairDesk (bytes : Bytes) : Desk where
  host := { database := { structures := [{ name := "old", size := 1 }] } }
  files := { entries := [(["a.spst"], .file bytes)] }

theorem DeskWork.importFrom_pairList : ∃ bytes report left,
    Snapshot.encode pairList = .ok bytes
      ∧ importFrom ⟨"a.spst"⟩ true (pairDesk bytes) = .ok report left
      ∧ Database.ofStructures pairList = .ok left.host.database
      ∧ report.structures = 2 ∧ report.members = 1
      ∧ ∃ error again, importFrom ⟨"b.spst"⟩ true (pairDesk bytes) = .error error again
        ∧ again.host.database = (pairDesk bytes).host.database := by
  obtain ⟨bytes, hencode⟩ : ∃ bytes, Snapshot.encode pairList = .ok bytes := ⟨_, rfl⟩
  have hread : (pairDesk bytes).files.read ⟨"a.spst"⟩ = .ok bytes := rfl
  have hdecode := Snapshot.decode_of_encode hencode true
  have htaken : firstBreach (pairList.map StoredStructure.layOut) = none := by decide
  have himport : importFrom ⟨"a.spst"⟩ true (pairDesk bytes)
      = .ok (ImportReport.of ⟨"a.spst"⟩ pairList) { pairDesk bytes with
          host := { database := { structures := pairList.map StoredStructure.layOut } } } :=
    importFrom_eq_ok.mpr ⟨pairList, _, Snapshot.load_eq_ok.mpr ⟨bytes, hread, hdecode⟩,
      Access.replaceStructures_eq_ok.mpr ⟨htaken, rfl⟩, rfl, rfl⟩
  have hmissing : Snapshot.load (pairDesk bytes).files ⟨"b.spst"⟩ true
      = .error (.fileNotFound ⟨"b.spst"⟩) := rfl
  have hfail := importFrom_eq_error.mpr (Or.inl ⟨_, hmissing, rfl, rfl⟩)
  obtain ⟨hall, hok, -⟩ := importFrom_all_or_nothing
  obtain ⟨data, structures, hread', hdecode', hdatabase, -⟩ := hok _ _ _ _ _ himport
  rw [hread] at hread'
  cases hread'
  rw [hdecode] at hdecode'
  cases hdecode'
  exact ⟨bytes, _, _, hencode, himport, hdatabase, rfl, rfl, _, _, hfail, hall _ _ _ _ _ hfail⟩

end StructVault
