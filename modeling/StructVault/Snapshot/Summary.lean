import StructVault.Snapshot.Encode

/-!
# Write summaries

What a writer reports about a snapshot it wrote.
-/

namespace StructVault.Snapshot

/-- A condition worth telling that is no failure. -/
inductive Warning where
  /-- There was no structure to write. -/
  | emptyInput
  deriving DecidableEq, Repr

/-- The wording of a warning. -/
def Warning.message : Warning → String
  | emptyInput => "no structures to export, wrote an empty snapshot"

/-- The counts of a written snapshot. -/
structure Summary where
  structures : Nat
  members : Nat
  /-- Length of the snapshot in bytes. -/
  bytes : Nat
  warnings : List Warning := []
  deriving DecidableEq, Repr

namespace Summary

/-- Whether there is something to warn about. -/
def hasWarnings (summary : Summary) : Bool := !summary.warnings.isEmpty

/-- The summary of a list of structures whose snapshot has a given length. -/
def of (structures : List Structure) (bytes : Nat) : Summary where
  structures := structures.length
  members := memberCount structures
  bytes := bytes
  warnings := if structures.isEmpty then [.emptyInput] else []

end Summary

/-- Encode structures and report about it, as a writer to a stream does. -/
def write (structures : List Structure) : Except Error (Bytes × Summary) := do
  let bytes ← encode structures
  return (bytes, Summary.of structures bytes.length)

end StructVault.Snapshot
