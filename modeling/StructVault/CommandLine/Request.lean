import StructVault.Log.Config

/-!
# Requests

What a command line asks for, once it is understood.

- `Request`: the commands with their arguments.
- `Options`: what all commands share, the looks of the log.
- `CommandLine`: both together.
- `Halt`: why nothing is carried out.
-/

namespace StructVault

/-- How the content of a snapshot is shown. -/
inductive View where
  | table
  | text
  deriving DecidableEq, Repr

/-- A command with its arguments. -/
inductive Request where
  /-- Write a database to a snapshot. -/
  | produce (database output : Path) (sync : Bool)
  /-- Put the structures of a snapshot in the place of those of a database. -/
  | load (snapshot database : Path) (verifyChecksum : Bool)
  /-- Show what a snapshot holds. -/
  | inspect (snapshot : Path) (members verifyChecksum : Bool) (view : View)
  deriving DecidableEq, Repr

/-- When output is styled. -/
inductive Styling where
  /-- On terminals. -/
  | auto
  | always
  | never
  deriving DecidableEq, Repr

/-- The options that all commands share. -/
structure Options where
  /-- How often more of the log is asked for. -/
  louder : Nat := 0
  /-- How often less of the log is asked for. -/
  quieter : Nat := 0
  styling : Styling := .auto
  severity : Option Log.Severity := none
  layout : Log.Layout := .full
  file : Option Path := none
  deriving DecidableEq, Repr

/-- A command line that is understood. -/
structure CommandLine where
  request : Request
  options : Options
  deriving DecidableEq, Repr

/-- Why a command line is not carried out. -/
inductive Halt where
  | unknownArgument
  | missingArgument
  | invalidValue
  | invalidCommand
  /-- An option is given twice, or with one that excludes it. -/
  | conflict
  /-- A value is given to an option that takes none. -/
  | tooManyValues
  | missingCommand
  /-- There is nothing on the command line. -/
  | nothingGiven
  | helpAsked
  | versionAsked
  deriving DecidableEq, Repr

/-- The exit code of a command line that is not carried out. Asking for help is no failure. -/
def Halt.exitCode : Halt → Nat
  | .helpAsked | .versionAsked => 0
  | _ => 2

namespace Options

/-- The threshold of the log that the counts alone ask for: warnings, and a step for each. -/
def countedThreshold (options : Options) : Log.Threshold :=
  .ofRank (Log.Severity.warn.rank + options.louder - options.quieter)

/-- Whether more or less of the log is asked for by counts. -/
def isCounted (options : Options) : Bool := options.louder + options.quieter > 0

/-- The settings of the log. A severity counts more than the counts, and either keeps the
environment out. No terminal is attached, so styles have to be asked for. -/
def logConfig (options : Options) : Log.Config where
  threshold := match options.severity with
    | some severity => .downTo severity
    | none => options.countedThreshold
  heedsEnvironment := !(options.isCounted || options.severity.isSome)
  styled := options.styling == .always
  layout := options.layout
  file := options.file

end Options

end StructVault
