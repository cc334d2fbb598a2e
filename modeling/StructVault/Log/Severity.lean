/-!
# Severities and thresholds

Every event of a log has a severity, and a threshold says which severities are shown: a
threshold at a severity lets that one and all graver ones pass.

- `Severity`, `Threshold`: the two scales, with their ranks.
- `Threshold.admits`: whether a severity passes a threshold.
- `Threshold.ofText?`: thresholds by name or by rank.
-/

namespace StructVault.Log

/-- How grave an event is, gravest first. -/
inductive Severity where
  | error
  | warn
  | info
  | debug
  | trace
  deriving DecidableEq, Repr

/-- Nothing is shown, or everything down to a severity. -/
inductive Threshold where
  | off
  | downTo (last : Severity)
  deriving DecidableEq, Repr

namespace Severity

/-- The place on the scale, from one for the gravest. -/
def rank : Severity → Nat
  | error => 1
  | warn => 2
  | info => 3
  | debug => 4
  | trace => 5

/-- What lines of a log call a severity. -/
def label : Severity → String
  | error => "ERROR"
  | warn => "WARN"
  | info => "INFO"
  | debug => "DEBUG"
  | trace => "TRACE"

/-- What options call a severity. -/
def name : Severity → String
  | error => "error"
  | warn => "warn"
  | info => "info"
  | debug => "debug"
  | trace => "trace"

end Severity

namespace Threshold

/-- The rank of the last severity that passes; zero where none does. -/
def rank : Threshold → Nat
  | off => 0
  | downTo last => last.rank

/-- Whether a severity passes. -/
def admits (threshold : Threshold) (severity : Severity) : Bool :=
  severity.rank ≤ threshold.rank

/-- What options call a threshold. -/
def name : Threshold → String
  | off => "off"
  | downTo last => last.name

/-- The threshold of a rank. Above the scale everything passes. -/
def ofRank : Nat → Threshold
  | 0 => off
  | 1 => downTo .error
  | 2 => downTo .warn
  | 3 => downTo .info
  | 4 => downTo .debug
  | _ => downTo .trace

/-- All thresholds, by rank. -/
def all : List Threshold :=
  [off, downTo .error, downTo .warn, downTo .info, downTo .debug, downTo .trace]

/-- The threshold a text names in any case of its letters. -/
def ofName? (text : String) : Option Threshold := all.find? (·.name == text.toLower)

/-- The threshold a text gives by its rank, in decimal digits that a plus may lead. -/
def ofRankText? (text : String) : Option Threshold :=
  let digits := match text.toList with
    | '+' :: rest => rest
    | rest => rest
  if digits.isEmpty || !digits.all Char.isDigit then none
  else
    let rank := digits.foldl (fun n c => 10 * n + (c.toNat - '0'.toNat)) 0
    if rank ≤ 5 then some (ofRank rank) else none

/-- The threshold a text gives by name or by rank. -/
def ofText? (text : String) : Option Threshold := (ofRankText? text).orElse fun _ => ofName? text

end Threshold

end StructVault.Log
