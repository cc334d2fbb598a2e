import StructVault.Log.Severity

/-!
# Events and spans

An event is something that happened while a program ran, with named details. A span is a stretch
of the run with a name and details of its own; what happens before it is left, happens inside
it.

- `Detail`, `Details`: named values.
- `Event`, `Span`: the records. Both name the part of the program they come from, their source.
-/

namespace StructVault.Log

/-- The value of a detail: a text that is shown as it is, or a number. -/
inductive Detail where
  | text (text : String)
  | number (number : Nat)
  deriving DecidableEq, Repr

/-- Details in the order they are shown. -/
abbrev Details := List (String × Detail)

/-- The text of a value. -/
def Detail.shown : Detail → String
  | .text shown => shown
  | .number n => toString n

/-- Something that happened. -/
structure Event where
  /-- The part of the program the event comes from. -/
  source : String
  severity : Severity
  message : String
  details : Details := []
  deriving DecidableEq, Repr

/-- A stretch of a run. -/
structure Span where
  /-- The part of the program the span comes from. -/
  source : String
  name : String
  severity : Severity := .info
  details : Details := []
  deriving DecidableEq, Repr

end StructVault.Log
