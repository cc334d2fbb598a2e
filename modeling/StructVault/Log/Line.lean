import StructVault.Json.Printer
import StructVault.Log.Config
import StructVault.Log.Event

/-!
# Lines of a log

How an event is written, together with the spans it happened in. Spans are listed from the
outermost to the innermost.

- `fullLine`: severity, spans with their details, source, message and details.
- `compactLine`: the same with the details of the spans at the end of the line.
- `jsonLine`: one JSON object.
- `line`: the line in the layout of the settings.
-/

namespace StructVault.Log

/-! ## Styles -/

/-- A text between the sequence that sets a style, given by its number, and the one that ends
it. -/
def paint (styled : Bool) (style : Nat) (text : String) : String :=
  if styled then s!"\x1b[{style}m{text}\x1b[0m" else text

/-- A text in bold face. -/
def bold (styled : Bool) : String → String := paint styled 1

/-- A faint text. -/
def dim (styled : Bool) : String → String := paint styled 2

/-- A text in italics. -/
def italic (styled : Bool) : String → String := paint styled 3

/-- The number of the colour of a severity. -/
def Severity.colour : Severity → Nat
  | .error => 31
  | .warn => 33
  | .info => 32
  | .debug => 34
  | .trace => 35

/-- A severity in five columns, in its colour. -/
def Severity.shown (styled : Bool) (severity : Severity) : String :=
  paint styled severity.colour
    (String.ofList (List.replicate (5 - severity.label.length) ' ') ++ severity.label)

/-! ## Lines of text -/

/-- Details with blanks between them, each a name, an equals sign and the value. -/
def detailsText (styled : Bool) (details : Details) : String :=
  " ".intercalate (details.map fun (name, value) =>
    italic styled name ++ dim styled "=" ++ value.shown)

/-- What both layouts write in front of the spans. -/
def opening (config : Config) (time : String) (event : Event) : String :=
  (if config.showsTime then dim config.styled time ++ " " else "")
    ++ event.severity.shown config.styled ++ " "

/-- The source of an event, where it is shown. -/
def sourceText (config : Config) (event : Event) : String :=
  if config.showsSource then dim config.styled event.source ++ dim config.styled ":" ++ " "
  else ""

/-- The message of an event and its details. -/
def eventText (styled : Bool) (event : Event) : String :=
  if event.details.isEmpty then event.message
  else event.message ++ " " ++ detailsText styled event.details

/-- A span with its details between braces. -/
def spanText (styled : Bool) (span : Span) : String :=
  bold styled span.name
    ++ (if span.details.isEmpty then ""
        else bold styled "\x7b" ++ detailsText styled span.details ++ bold styled "\x7d")
    ++ dim styled ":"

/-- Texts one after the other and a blank behind the last. -/
def closedByBlank (texts : List String) : String :=
  if texts.isEmpty then "" else String.join texts ++ " "

/-- The line of an event, with the spans in full. -/
def fullLine (config : Config) (time : String) (spans : List Span) (event : Event) : String :=
  opening config time event
    ++ closedByBlank (spans.map (spanText config.styled))
    ++ sourceText config event
    ++ eventText config.styled event

/-- The line of an event, with the spans by name and their details at the end. -/
def compactLine (config : Config) (time : String) (spans : List Span) (event : Event) : String :=
  opening config time event
    ++ closedByBlank (spans.map fun span => bold config.styled span.name ++ ":")
    ++ sourceText config event
    ++ eventText config.styled event
    ++ String.join ((spans.filter (!·.details.isEmpty)).map fun span =>
        " " ++ dim config.styled (detailsText config.styled span.details))

/-! ## Lines of JSON -/

/-- A value in JSON. -/
def Detail.toJson : Detail → Json
  | .text shown => .string shown
  | .number n => .nat n

/-- Details as fields of a JSON object. -/
def Details.toFields (details : Details) : List (String × Json) :=
  details.map fun (name, value) => (name, value.toJson)

/-- A span in JSON: its details and its name. -/
def Span.toJson (span : Span) : Json :=
  .object (Details.toFields span.details ++ [("name", .string span.name)])

/-- Where something happened: the innermost span and all spans around the event. -/
def placeFields (current : Span) (around : List Span) : List (String × Json) :=
  [("span", current.toJson), ("spans", .array (around.map Span.toJson))]

/-- An event in JSON, with fields that tell where it happened. -/
def eventJson (config : Config) (time : String) (place : List (String × Json)) (event : Event) :
    Json :=
  .object ([
    ("timestamp", .string time),
    ("level", .string event.severity.label),
    ("fields", .object (("message", .string event.message) :: Details.toFields event.details))]
    ++ (if config.showsSource then [("target", .string event.source)] else [])
    ++ place)

/-- The line of an event as a JSON object. Outside all spans none is named. -/
def jsonLine (config : Config) (time : String) (spans : List Span) (event : Event) : String :=
  let place := match spans.getLast? with
    | none => []
    | some current => placeFields current spans
  (eventJson config time place event).compactText

/-- The line that tells that a span is left; `around` are the spans that stay. The clock is read
once for a whole run, so no time passes between entering a span and leaving it. -/
def closingLine (config : Config) (time : String) (around : List Span) (span : Span) : String :=
  let event : Event := {
    source := span.source, severity := span.severity, message := "close"
    details := [("time.busy", .text "0.00ns"), ("time.idle", .text "0.00ns")] }
  (eventJson config time (placeFields span around) event).compactText

/-! ## Lines in the layout of the settings -/

/-- The line of an event. -/
def line (config : Config) (time : String) (spans : List Span) (event : Event) : String :=
  match config.layout with
  | .full => fullLine config time spans event
  | .compact => compactLine config time spans event
  | .json => jsonLine config time spans event

/-- The line that tells that a span is left, where the settings ask for one. -/
def closing? (config : Config) (time : String) (around : List Span) (span : Span) :
    Option String :=
  if config.layout == .json && config.tellsClosing then
    some (closingLine config time around span)
  else none

end StructVault.Log
