import Std.Time
import StructVault.Program.Run

/-!
# The command line program

Reads the files a command line names, runs the program on them and writes back what it changed.
Everything that is decided is decided by `Program.perform`.
-/

namespace StructVault.Outside

/-- The paths a command line names, and the temporary siblings of those that may be replaced. -/
def touched (line : CommandLine) : List Path :=
  let named := match line.request with
    | .produce database output _ => [database, output]
    | .load snapshot database _ => [snapshot, database]
    | .inspect snapshot _ _ _ => [snapshot]
  line.options.file.toList ++ named ++ named.filterMap Path.temporary?

/-- The locations that steps lead through. -/
def visited : Location → List String → List Location
  | location, [] => [location]
  | location, step :: steps =>
    let next := match step with
      | "." => location
      | ".." => location.dropLast
      | name => location ++ [name]
    location :: visited next steps

/-- The name of a location. -/
def nameOf (location : Location) : String := "/" ++ "/".intercalate location

/-- What stands at a location whose directory exists. -/
def look (location : Location) : IO (Option Entry) := do
  try
    let content ← IO.FS.readBinFile (nameOf location)
    return some (.file content.toList)
  catch
    | .inappropriateType .. => return some .directory
    | .noFileOrDirectory .. => return none
    | error => throw error

/-- The tree with what stands at a location, unless that is known or out of reach. -/
def gather (tree : FileTree) (location : Location) : IO FileTree := do
  if (tree.lookup location).isSome || !tree.isDirectory location.dropLast then return tree
  match ← look location with
  | none => return tree
  | some entry => return tree.put location entry

/-- Replace a file by new content. -/
def replace (location : Location) (content : Bytes) : IO Unit := do
  let name := nameOf location
  let temporary := nameOf (location.dropLast ++ ["." ++ location.getLastD "" ++ ".tmp"])
  IO.FS.writeBinFile temporary ⟨content.toArray⟩
  IO.FS.rename temporary name

/-- Write back the files that differ, and remove those that are gone. -/
def settle (before after : FileTree) : IO Unit := do
  for (location, entry) in after.entries do
    match entry with
    | .file content =>
      if before.lookup location != some entry then replace location content
    | .directory => pure ()
  for (location, _) in before.entries do
    if (after.lookup location).isNone then IO.FS.removeFile (nameOf location)

/-- The time of the clock, in seconds and millionths. -/
def clock : IO String := do
  let now := Std.Time.DateTime.ofTimestampWithZone (← Std.Time.Timestamp.now) Std.Time.TimeZone.UTC
  return now.format "uuuu-MM-dd" ++ "T" ++ now.format "HH:mm:ss.SSSSSS" ++ "Z"

/-- How the program is used. -/
def usage : String :=
  "Produce, load and inspect structure snapshot (.spst) files\n\n"
    ++ "Usage: spst [OPTIONS] produce --database <DB_JSON> --output <SPST> [--no-sync]\n"
    ++ "       spst [OPTIONS] load <SPST> --database <DB_JSON> [--skip-checksum]\n"
    ++ "       spst [OPTIONS] inspect <SPST> [--members] [--format table|text] [--skip-checksum]\n\n"
    ++ "Options: -v, -q, --color <WHEN>, --log-level <LEVEL>, --log-format <FORMAT>,\n"
    ++ "         --log-file <PATH>, -h, -V\n"

/-- Tell why nothing was carried out. -/
def tellHalt : Halt → IO Unit
  | .helpAsked => IO.print usage
  | .versionAsked => IO.print Program.versionText
  | _ => IO.eprint usage

/-- Carry a command line out on the files of the system. -/
def carryOut (line : CommandLine) : IO UInt32 := do
  let start : FileTree := { workingDirectory := (Path.mk (← IO.currentDir).toString).steps }
  let locations := visited [] start.workingDirectory
    ++ (touched line).flatMap fun path => visited (start.origin path) path.steps
  let files ← locations.foldlM gather start
  let ending := Program.perform line (← IO.getEnv "RUST_LOG") (← clock) files
  settle files ending.files
  IO.print ending.output
  IO.eprint ending.errors
  return UInt32.ofNat ending.exitCode

end StructVault.Outside

/-- The program. -/
def main (words : List String) : IO UInt32 := do
  match StructVault.CommandLine.parse words with
  | .error halt =>
    StructVault.Outside.tellHalt halt
    return UInt32.ofNat halt.exitCode
  | .ok line => StructVault.Outside.carryOut line
