import StructVault.Files.Path
import StructVault.Log.Severity

/-!
# Settings of a log

- `Config`: what is shown, how lines look and where they go.
- `Config.withThreshold` and its siblings: the same settings with one of them changed.
-/

namespace StructVault.Log

/-- How lines of a log look. -/
inductive Layout where
  /-- Spans with their details, then the event. -/
  | full
  /-- Spans by name, then the event, then the details of the spans. -/
  | compact
  /-- One JSON object a line. -/
  | json
  deriving DecidableEq, Repr

/-- The settings of a log. -/
structure Config where
  /-- What is shown of the events of this library. -/
  threshold : Threshold := .downTo .warn
  /-- Whether a filter from the environment may take the place of the threshold. -/
  heedsEnvironment : Bool := true
  /-- Whether lines start with the time. JSON lines always hold it. -/
  showsTime : Bool := false
  /-- Whether lines name the source of an event. -/
  showsSource : Bool := false
  /-- Whether JSON lines also tell when a span is left. -/
  tellsClosing : Bool := true
  /-- Whether lines are styled. JSON lines never are. -/
  styled : Bool := true
  layout : Layout := .full
  /-- The file that lines are appended to, in place of the error output. -/
  file : Option Path := none
  deriving DecidableEq, Repr

namespace Config

/-- The settings with another threshold. -/
def withThreshold (config : Config) (threshold : Threshold) : Config := { config with threshold }

/-- The settings with or without the time. -/
def withTime (config : Config) (showsTime : Bool) : Config := { config with showsTime }

/-- The settings with or without styles. -/
def withStyles (config : Config) (styled : Bool) : Config := { config with styled }

/-- The settings with another layout. -/
def withLayout (config : Config) (layout : Layout) : Config := { config with layout }

/-- The settings with another destination. -/
def withFile (config : Config) (file : Option Path) : Config := { config with file }

end Config

end StructVault.Log
