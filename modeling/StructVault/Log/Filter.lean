import StructVault.Log.Directive
import StructVault.Text.Split

/-!
# Filters

A filter is a list of directives. Of the directives that govern an event or a span wherever it
happens, the narrowest counts, and of two that are equally narrow the later one. An event or a
span that they keep back may still be shown inside a span that lets it pass, and a span that is
watched is shown in any case; but nothing passes that is below the thresholds of all directives.

- `Filter.threshold`: the threshold that directives outside spans set for an event.
- `Filter.admitsEvent`, `Filter.admitsSpan`: whether an event or a span is shown, given the
  thresholds of the spans around it.
- `Filter.opened`: the threshold inside a span.
- `Filter.standard`: the filter that lets a threshold govern this library alone.
- `Filter.ofText?`: a filter as text: directives with commas between them.
-/

namespace StructVault.Log

/-- Directives in the order they are given. -/
abbrev Filter := List Directive

namespace Filter

/-! ## Outside spans -/

/-- The narrower of two directives, the second of two that are equally narrow. -/
def narrower : Option Directive → Directive → Option Directive
  | none, second => some second
  | some first, second => if first.isWithin second then some second else some first

/-- The threshold of the narrowest directive that governs something. What nothing governs is
silent. -/
def ruling (filter : Filter) (governs : Directive → Bool) : Threshold :=
  match (filter.filter governs).foldl narrower none with
  | none => .off
  | some directive => directive.threshold

/-- The threshold of an event wherever it happens. -/
def threshold (filter : Filter) (event : Event) : Threshold :=
  filter.ruling (·.governsEvent event)

/-- The threshold of a span wherever it is entered. -/
def spanThreshold (filter : Filter) (span : Span) : Threshold :=
  filter.ruling (·.governsSpan span)

/-! ## Inside spans -/

/-- The directives without those whose place a later one takes. -/
def standing : Filter → List Directive
  | [] => []
  | directive :: more =>
    if more.any (·.isAbout directive) then standing more else directive :: standing more

/-- Whether a span is watched. -/
def watches (filter : Filter) (span : Span) : Bool := filter.standing.any (·.watches span)

/-- The higher one of two thresholds. -/
def higher (first second : Threshold) : Threshold :=
  if first.rank ≤ second.rank then second else first

/-- The threshold inside a span: the highest of the directives that set one there. -/
def opened (filter : Filter) (span : Span) : Threshold :=
  ((filter.standing.filter (·.opens span)).map (·.threshold)).foldl higher .off

/-- The threshold below which nothing is looked at. While a value is asked for, everything is. -/
def ceiling (filter : Filter) : Threshold :=
  if filter.any (·.asksValue) then .downTo .trace
  else (filter.map (·.threshold)).foldl higher .off

/-! ## What is shown -/

/-- Whether an event is shown inside spans with the given thresholds. -/
def admitsEvent (filter : Filter) (around : List Threshold) (event : Event) : Bool :=
  filter.ceiling.admits event.severity
    && ((filter.threshold event).admits event.severity || around.any (·.admits event.severity))

/-- Whether a span is shown inside spans with the given thresholds. -/
def admitsSpan (filter : Filter) (around : List Threshold) (span : Span) : Bool :=
  filter.ceiling.admits span.severity
    && (filter.watches span || (filter.spanThreshold span).admits span.severity
      || around.any (·.admits span.severity))

/-! ## The standard filter and filters as text -/

/-- The parts of this library that follow the threshold of the settings. -/
def libraryParts : List String := ["spst_cli", "spst_format", "spst_host"]

/-- This library shown down to a threshold, and everything else down to warnings. -/
def standard (threshold : Threshold) : Filter :=
  { threshold := .downTo .warn }
    :: libraryParts.map fun part => { source := some part, threshold }

/-- The filter of a text, if every directive can be read; empty ones are left out. A text without
directives shows errors only. -/
def ofText? (text : String) : Option Filter := do
  let parts := (Text.splitAt ',' text.toList).filter (!·.isEmpty)
  let filter ← parts.mapM Directive.ofText?
  some (if filter.isEmpty then [{ threshold := .downTo .error }] else filter)

end Filter

end StructVault.Log
