import StructVault.Database.Validity
import StructVault.Json.Error
import StructVault.Snapshot.Error

/-!
# Errors of the database

- `StructureHandle`, `MemberHandle`: references to what a database holds.
- `Database.Error`: what can go wrong between a database, its file and snapshots of it.
-/

namespace StructVault

/-- A reference to a structure. -/
structure StructureHandle where
  raw : Nat
  deriving DecidableEq, Repr

/-- A reference to a member of a structure. -/
structure MemberHandle where
  owner : StructureHandle
  raw : Nat
  deriving DecidableEq, Repr

/-- How errors write a structure handle. -/
def StructureHandle.text (handle : StructureHandle) : String :=
  s!"StructureHandle({handle.raw})"

/-- How errors write a member handle. -/
def MemberHandle.text (handle : MemberHandle) : String :=
  s!"MemberHandle \x7b owner: {handle.owner.text}, raw: {handle.raw} \x7d"

namespace Database

/-- Why a database did not take an update. -/
inductive Rejection where
  /-- The structures break the rule of the host. -/
  | breach (breach : Breach)
  /-- The host refused a call for reasons of its own. -/
  | refused (message : String)
  deriving DecidableEq, Repr

/-- The wording of a rejection. -/
def Rejection.message : Rejection → String
  | .breach broken => broken.message
  | .refused message => message

/-- What can go wrong with a database. -/
inductive Error where
  /-- A snapshot could not be read or written. -/
  | snapshot (error : Snapshot.Error)
  | unknownStructure (handle : StructureHandle)
  | unknownMember (handle : MemberHandle)
  | rejected (reason : Rejection)
  /-- The file of a database is no description of one. -/
  | invalidFile (path : Path) (error : Json.Error)
  /-- The file of a database could not be read. -/
  | io (failure : FileFailure)
  deriving DecidableEq, Repr

namespace Error

/-- The wording of an error. -/
def message : Error → String
  | snapshot error => error.message
  | unknownStructure handle => s!"unknown structure handle {handle.text}"
  | unknownMember handle => s!"unknown member handle {handle.text}"
  | rejected reason => s!"database rejected update: {reason.message}"
  | invalidFile path error => s!"invalid database file {path.text}: {error.message}"
  | io failure => s!"I/O error: {failure.message}"

/-- The class of the snapshot error behind this one, if there is one. -/
def snapshotKind : Error → Option Snapshot.ErrorKind
  | snapshot error => some error.kind
  | _ => none

end Error

end Database

end StructVault
