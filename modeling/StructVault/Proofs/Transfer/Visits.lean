import StructVault.Database.Json
import StructVault.Plugin
import StructVault.Proofs.Transfer.Exports

/-!
# The life of a database

A database comes from one of four origins (`Origin`) and then meets any calls, one after the other
(`Visit`). Between two calls anything may happen to the files, and the host may be about to refuse
a call of its own. Whatever is in the files and however the calls end, the database stays valid
(`valid_run`).

The reason is in one place: structures enter a database only through `Database.ofStored`, which
takes valid lists. All other calls leave the database alone.
-/

namespace StructVault

open Steps

/-! ## Origins and calls -/

/-- Where a database comes from. -/
inductive Origin where
  | new
  | stored (structures : List StoredStructure)
  | listed (structures : List Structure)
  | file (tree : FileTree) (path : Path)
  deriving DecidableEq, Repr

/-- The database of an origin, if it has one. -/
def Origin.database? : Origin → Except Database.Error Database
  | new => .ok {}
  | stored structures => Database.ofStored structures
  | listed structures => Database.ofStructures structures
  | file tree path => Database.load tree path

/-- The desk that work leaves, whether it fails or succeeds. -/
def DeskWork.leave {α : Type} (work : DeskWork α) (desk : Desk) : Desk :=
  match work desk with
  | .ok _ left => left
  | .error _ left => left

/-- A call on a host. -/
inductive Call where
  | replaceStructures (structures : List Structure)
  | importFrom (path : Path) (verifyChecksum : Bool)
  | exportTo (path : Path) (sync : Bool)
  /-- A command of the plugin, with the answer to its dialog. -/
  | invoke (plugin : Plugin) (command : Command) (answer : Option Path)
  | run (plugin : Plugin) (answer : Option Path)
  deriving DecidableEq, Repr

/-- The desk that a call leaves. -/
def Call.leave : Call → Desk → Desk
  | replaceStructures structures => (DeskWork.onHost (Access.replaceStructures structures)).leave
  | importFrom path verifyChecksum => (DeskWork.importFrom path verifyChecksum).leave
  | exportTo path sync => (DeskWork.exportTo path sync).leave
  | invoke plugin command answer => fun desk => (plugin.invoke command answer desk).desk
  | run plugin answer => fun desk => (plugin.run answer desk).desk

/-- A call with the files and the refusal that it meets. -/
structure Visit where
  files : FileTree
  refusal : Option Refusal := none
  call : Call
  deriving DecidableEq, Repr

namespace Visit

/-- The database behind a visit. -/
def pay (visit : Visit) (database : Database) : Database :=
  (visit.call.leave { host := { database, refusal := visit.refusal }, files := visit.files }).host
    |>.database

/-- The database that is left after some visits. -/
def run : List Visit → Database → Database
  | [], database => database
  | visit :: rest, database => run rest (visit.pay database)

end Visit

/-! ## Hosts -/

variable {database : Database}

theorem Origin.valid {origin : Origin} (h : origin.database? = .ok database) :
    Valid database.structures := by
  cases origin with
  | new =>
    cases h
    exact valid_nil
  | stored structures =>
    obtain ⟨hvalid, rfl⟩ := ofStored_eq_ok.mp h
    exact hvalid
  | listed structures =>
    obtain ⟨hvalid, rfl⟩ := ofStored_eq_ok.mp h
    exact hvalid
  | file tree path =>
    obtain ⟨data, -, h⟩ := attempt_bind_eq_ok.mp h
    split at h
    · cases h
    · next text _ =>
      obtain ⟨found, -, h⟩ := attempt_bind_eq_ok.mp h
      obtain ⟨hvalid, rfl⟩ := ofStored_eq_ok.mp h
      exact hvalid

namespace Access

/-- Calls that keep the database of a host valid, whether they fail or succeed. -/
abbrev KeepsValid {α : Type} (calls : Access α) : Prop :=
  Keeps (fun host => Valid host.database.structures)
    (fun _ host => Valid host.database.structures) calls

/-- A list that was taken is valid, and one that was not taken changes nothing. -/
theorem keepsValid_replaceStructures (structures : List Structure) :
    KeepsValid (replaceStructures structures) where
  ok _ h := by
    obtain ⟨hvalid, heq⟩ := ofStored_eq_ok.mp (replaceStructures_ok h)
    rw [heq]
    exact hvalid
  error hvalid h := by
    rw [database_of_replaceStructures_error h]
    exact hvalid

end Access

/-! ## Desks -/

namespace DeskWork

/-- Work that keeps the database at a desk valid, whether it fails or succeeds. -/
abbrev KeepsValid {α : Type} (work : DeskWork α) : Prop :=
  Keeps (fun desk => Valid desk.host.database.structures)
    (fun _ desk => Valid desk.host.database.structures) work

variable {α : Type} {path : Path} {work : DeskWork α} {desk : Desk}

theorem keepsValid_onHost {calls : Access α} (h : Access.KeepsValid calls) :
    KeepsValid (onHost calls) where
  ok hvalid hcalls := by
    obtain ⟨host, hhost, rfl⟩ := onHost_eq_ok.mp hcalls
    exact h.ok hvalid hhost
  error hvalid hcalls := by
    obtain ⟨host, hhost, rfl⟩ := onHost_eq_error.mp hcalls
    exact h.error hvalid hhost

theorem keepsValid_exportTo (path : Path) (sync : Bool) : KeepsValid (exportTo path sync) where
  ok hvalid h := by
    rw [(exportTo_ok h).1]
    exact hvalid
  error hvalid h := by
    rw [(exportTo_error h).1]
    exact hvalid

theorem keepsValid_importFrom (path : Path) (verifyChecksum : Bool) :
    KeepsValid (importFrom path verifyChecksum) := by
  refine Keeps.get.bind fun desk => ?_
  cases Snapshot.load desk.files path verifyChecksum with
  | error error => exact Keeps.throw fun _ hvalid => hvalid
  | ok structures =>
    exact (keepsValid_onHost (Access.keepsValid_replaceStructures structures)).bind
      fun _ => Keeps.pure _

theorem KeepsValid.leave (h : KeepsValid work) (hvalid : Valid desk.host.database.structures) :
    Valid (work.leave desk).host.database.structures := by
  unfold DeskWork.leave
  split
  · next left hok => exact h.ok hvalid hok
  · next left herror => exact h.error hvalid herror

end DeskWork

/-- Whichever command is run, a valid database stays one. -/
theorem Plugin.keepsValid_perform (plugin : Plugin) (path : Path) (command : Command) :
    DeskWork.KeepsValid (plugin.perform path command) := by
  cases command with
  | produce => exact (DeskWork.keepsValid_exportTo path plugin.sync).map _
  | load => exact (DeskWork.keepsValid_importFrom path plugin.verifyChecksum).map _

theorem Plugin.valid_invoke (plugin : Plugin) (command : Command) (answer : Option Path)
    {desk : Desk} (hvalid : Valid desk.host.database.structures) :
    Valid (plugin.invoke command answer desk).desk.host.database.structures := by
  unfold Plugin.invoke
  cases answer with
  | none => exact hvalid
  | some path =>
    have hkeeps := plugin.keepsValid_perform path command
    dsimp only
    split
    · next outcome left hperform => exact hkeeps.ok hvalid hperform
    · next error left hperform => exact hkeeps.error hvalid hperform

/-! ## Runs -/

/-- One call, whatever it is and however it ends. -/
theorem Call.valid_leave (call : Call) {desk : Desk}
    (hvalid : Valid desk.host.database.structures) :
    Valid (call.leave desk).host.database.structures := by
  cases call with
  | replaceStructures structures =>
    have hhost := Access.keepsValid_replaceStructures structures
    exact (DeskWork.keepsValid_onHost hhost).leave hvalid
  | importFrom path verifyChecksum =>
    exact (DeskWork.keepsValid_importFrom path verifyChecksum).leave hvalid
  | exportTo path sync => exact (DeskWork.keepsValid_exportTo path sync).leave hvalid
  | invoke plugin command answer => exact plugin.valid_invoke command answer hvalid
  | run plugin answer => exact plugin.valid_invoke .produce answer hvalid

theorem Visit.valid_run_of_valid (visits : List Visit) : ∀ {database : Database},
    Valid database.structures → Valid (run visits database).structures := by
  induction visits with
  | nil =>
    intro database hvalid
    exact hvalid
  | cons visit rest ih =>
    intro database hvalid
    have hpaid : Valid (visit.pay database).structures := visit.call.valid_leave hvalid
    exact ih hpaid

/-- **Validity** lasts: a database from any origin is valid, and stays so through any calls. -/
theorem Visit.valid_run {origin : Origin} (h : origin.database? = .ok database)
    (visits : List Visit) : Valid (run visits database).structures :=
  valid_run_of_valid visits (Origin.valid h)

/-- A list is taken, one with two structures of one name is not, and an export is refused halfway.
Then a list is to be loaded from a file that is no snapshot. -/
def mixedVisits : List Visit :=
  [{ files := {}, call := .replaceStructures [{ name := "a", size := 0 }] },
    { files := {}, call := .replaceStructures [{ name := "b", size := 0 }, { name := "b", size := 1 }] },
    { files := {}, refusal := some ⟨.listMembers, 0, .rejected (.refused "busy")⟩,
      call := .run {} (some ⟨"a.spst"⟩) },
    { files := { entries := [(["a.spst"], .file [0])] },
      call := .invoke {} .load (some ⟨"a.spst"⟩) }]

theorem Visit.valid_run_mixedVisits : (Origin.listed [{ name := "old", size := 1 }]).database?
      = .ok { structures := [{ name := "old", size := 1 }] }
    ∧ run mixedVisits { structures := [{ name := "old", size := 1 }] }
      = { structures := [{ name := "a", size := 0 }] }
    ∧ Valid (run mixedVisits { structures := [{ name := "old", size := 1 }] }).structures := by
  have horigin : (Origin.listed [{ name := "old", size := 1 }]).database?
      = .ok { structures := [{ name := "old", size := 1 }] } := by
    show Database.ofStored [{ name := "old", size := 1 }] = _
    exact ofStored_eq_ok.mpr ⟨firstBreach_eq_none_iff.mp (by decide), rfl⟩
  exact ⟨horigin, by decide, valid_run horigin mixedVisits⟩

end StructVault
