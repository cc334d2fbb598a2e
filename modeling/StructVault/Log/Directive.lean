import StructVault.Log.Event
import StructVault.Text.Alphanumeric
import StructVault.Text.Pattern.OfText

/-!
# Directives

A directive sets a threshold for some of the events and spans of a program. It names the start of
their sources, or it names spans, or both. A directive that names spans lets through what happens
inside them; it may ask for a field the span has, and for the value of that field. A directive
that asks for a field but names neither a span nor a value also stands for all events with a
field of that name.

- `FieldTest`, `Directive`: the parts of a directive.
- `Directive.governsEvent`, `Directive.governsSpan`: what a directive that needs no span sets the
  threshold for.
- `Directive.watches`, `Directive.opens`: the spans a directive is about, and those in which it
  sets the threshold.
- `Directive.ofText?`: a directive as text, `source[span\x7bfield=value\x7d]=threshold`.
-/

namespace StructVault.Log

/-- What the value of a field has to be. -/
inductive ValueTest where
  /-- A number or a truth value. It is never equal to a text. -/
  | scalar (text : String)
  /-- A text that fits a pattern. -/
  | pattern (form : Text.Pattern)
  deriving DecidableEq, Repr

/-- A field that has to be there, and what its value has to be. -/
structure FieldTest where
  name : String
  value : Option ValueTest := none
  deriving DecidableEq, Repr

/-- The threshold of some events and spans. -/
structure Directive where
  /-- What their sources begin with; nothing where all sources are meant. -/
  source : Option String := none
  /-- The name of the span; nothing where all spans are meant. -/
  span : Option String := none
  /-- The field to be found. -/
  field : Option FieldTest := none
  threshold : Threshold
  deriving DecidableEq, Repr

namespace ValueTest

/-- Whether a value passes. -/
def accepts : ValueTest → Detail → Bool
  | .scalar text, .number n => text == toString n
  | .pattern form, .text shown => form.fits shown
  | _, _ => false

end ValueTest

namespace FieldTest

/-- Whether details that have the field pass. -/
def accepts (test : FieldTest) (details : Details) : Bool :=
  match test.value, details.lookup test.name with
  | none, _ => true
  | some value, some detail => value.accepts detail
  | some _, none => false

end FieldTest

namespace Directive

/-- Whether a directive is about a source. -/
def admitsSource (directive : Directive) (source : String) : Bool :=
  match directive.source with
  | none => true
  | some start => start.toList.isPrefixOf source.toList

/-- Whether a directive asks for a value. -/
def asksValue (directive : Directive) : Bool := directive.field.any (·.value.isSome)

/-- Whether a directive sets a threshold outside spans. -/
def isStatic (directive : Directive) : Bool := directive.span.isNone && !directive.asksValue

/-- Whether a directive sets a threshold inside spans. -/
def isDynamic (directive : Directive) : Bool :=
  directive.span.isSome || directive.field.isSome

/-- The names of the fields of an event; its message is one of them. -/
def eventFields (event : Event) : List String := "message" :: event.details.map (·.1)

/-- Whether a directive governs an event wherever it happens. -/
def governsEvent (directive : Directive) (event : Event) : Bool :=
  directive.isStatic && directive.admitsSource event.source
    && directive.field.all fun field => (eventFields event).contains field.name

/-- Whether a directive governs a span wherever it is entered. Fields are not looked at. -/
def governsSpan (directive : Directive) (span : Span) : Bool :=
  directive.isStatic && directive.admitsSource span.source

/-- Whether a directive watches a span, which is shown then. -/
def watches (directive : Directive) (span : Span) : Bool :=
  directive.isDynamic && directive.admitsSource span.source
    && directive.span.all (· == span.name)
    && directive.field.all fun field => (span.details.lookup field.name).isSome

/-- Whether a directive sets the threshold inside a span. -/
def opens (directive : Directive) (span : Span) : Bool :=
  directive.watches span && directive.field.all (·.accepts span.details)

/-- Whether two directives are about the same, so that the later one takes the place of the
other. -/
def isAbout (first second : Directive) : Bool :=
  first.source == second.source && first.span == second.span && first.field == second.field

/-- How narrow a directive is among those that govern the same: by the length of its source,
where none at all is the shortest, then by the name of its field, where none comes first. -/
def narrowness (directive : Directive) : Nat × String :=
  ((directive.source.map (·.utf8ByteSize + 1)).getD 0,
    (directive.field.map ("=" ++ ·.name)).getD "")

/-- Whether a directive is no narrower than another one. -/
def isWithin (first second : Directive) : Bool :=
  first.narrowness.1 < second.narrowness.1
    || first.narrowness.1 == second.narrowness.1 && first.narrowness.2 ≤ second.narrowness.2

end Directive

/-! ## Values as text -/

namespace ValueTest

/-- Whether a text is digits, perhaps with a point among them, and perhaps an exponent. -/
def isDecimal (text : List Char) : Bool :=
  let whole := text.takeWhile Char.isDigit
  let rest := text.drop whole.length
  let part := if rest.head? == some '.' then rest.tail.takeWhile Char.isDigit else []
  let rest := if rest.head? == some '.' then rest.drop (part.length + 1) else rest
  let isExponent := match rest with
    | [] => true
    | e :: digits =>
      let digits := match digits with
        | '+' :: digits | '-' :: digits => digits
        | digits => digits
      (e == 'e' || e == 'E') && !digits.isEmpty && digits.all Char.isDigit
  !(whole.isEmpty && part.isEmpty) && isExponent

/-- Whether a text reads as a number or a truth value. -/
def isScalar (text : List Char) : Bool :=
  let unsigned := match text with
    | '+' :: rest | '-' :: rest => rest
    | rest => rest
  let word := (String.ofList unsigned).toLower
  text == "true".toList || text == "false".toList || isDecimal unsigned
    || word == "inf" || word == "infinity" || word == "nan"

/-- What a text asks of a value. -/
def ofText? (text : List Char) : Option ValueTest :=
  if isScalar text then some (.scalar (String.ofList text))
  else (Text.Pattern.ofText? text).map .pattern

end ValueTest

/-- The test of a text: a name, or a name, an equals sign and a value. A second equals sign ends
the value. -/
def FieldTest.ofText? (text : List Char) : Option FieldTest :=
  let name := text.takeWhile (· != '=')
  match text.drop name.length with
  | [] => some { name := String.ofList name }
  | _ :: value =>
    (ValueTest.ofText? (value.takeWhile (· != '='))).map fun value =>
      { name := String.ofList name, value := some value }

/-! ## Directives as text -/

namespace Directive

/-- Characters that may surround a directive. -/
def blank : Text.CharSet := #[
  (0x9, 0xD), (0x20, 0x20), (0x85, 0x85), (0xA0, 0xA0), (0x1680, 0x1680), (0x2000, 0x200A),
  (0x2028, 0x2029), (0x202F, 0x202F), (0x205F, 0x205F), (0x3000, 0x3000)]

/-- A text without the blanks around it. -/
def trim (text : List Char) : List Char :=
  ((text.dropWhile blank.has).reverse.dropWhile blank.has).reverse

/-- Whether a directive can begin with a character. -/
def canBegin (c : Char) : Bool :=
  c == '-' || c == ':' || c == '_' || c == '[' || Text.alphanumeric.has c

/-- A directive with the threshold of a text. No text at all lets everything pass. -/
def withThreshold? (directive : Directive) (text : List Char) : Option Directive :=
  if text.isEmpty then some directive
  else (Threshold.ofText? (String.ofList text)).map fun threshold => { directive with threshold }

/-- A directive with what stands behind its closing bracket. -/
def behindBracket? (directive : Directive) (shape text : List Char) : Option Directive :=
  match shape with
  | [] => some directive
  | c :: _ => if c == '=' then directive.withThreshold? (text.drop 1) else none

/-- A directive with the span in its brackets and what stands behind them. -/
def bracketed? (directive : Directive) (shape text : List Char) : Option Directive :=
  let length := (shape.takeWhile fun c => c != ']' && c != '\x7b').length
  let name := text.take length
  match shape.drop length with
  | [] => none
  | c :: inner =>
    if c == ']' then
      { directive with span := some (String.ofList name) }.behindBracket?
        inner (text.drop (length + 1))
    else
      let width := (inner.takeWhile (· != '\x7d')).length
      let field := (text.drop (length + 1)).take width
      match inner.drop width with
      | _ :: ']' :: behind =>
        if field.isEmpty then none
        else do
          let span := if name.isEmpty then none else some (String.ofList name)
          { directive with span, field := some (← FieldTest.ofText? field) }.behindBracket?
            behind (text.drop (length + width + 3))
      | _ => none

/-- The directive of a text. A word alone is a threshold or else a source, which is shown whole.
Blanks around the text count for nothing when its marks are looked for, but the parts between the
marks are then taken from the text with its blanks; so only a word alone, or a source in front of
brackets, is understood behind a blank. -/
def ofText? (text : List Char) : Option Directive :=
  let shape := trim text
  match shape with
  | [] => none
  | first :: _ =>
    if !canBegin first then none
    else
      let length := (shape.takeWhile fun c => c != '=' && c != '[').length
      let whole : Directive := { threshold := .downTo .trace }
      let named := { whole with source := some (String.ofList (text.take length)) }
      match shape.drop length with
      | [] =>
        let word := String.ofList text
        match Threshold.ofText? word with
        | some threshold => some { threshold }
        | none => some { whole with source := some word }
      | c :: inner =>
        if c == '=' then named.withThreshold? (text.drop (length + 1))
        else (if length == 0 then whole else named).bracketed? inner (text.drop (length + 1))

end Directive

end StructVault.Log
