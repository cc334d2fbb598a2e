import StructVault.Text.Width

/-!
# What a terminal shows of a text

A terminal takes some characters of a text as orders to itself and shows the others. An order
begins with the escape character; what follows says how far it goes. Control characters do their
work in the middle of an order too, except inside a string, so they count as shown.

- `Reading`: what a terminal is in the middle of.
- `visible`: the characters that are shown.
- `visibleWidth`: the columns they take.
-/

namespace StructVault.Text

/-- The character that begins an order. -/
def escape : Char := Char.ofNat 27

/-- The character that rings the bell, and ends a command. -/
def bell : Char := Char.ofNat 7

/-- What a terminal is in the middle of. -/
inductive Reading where
  | plain
  /-- Behind the escape character. -/
  | order
  /-- Behind the escape character and marks; one more character ends the order. -/
  | marked
  /-- Behind the escape character and an opening bracket: parameters, then a letter. -/
  | control
  /-- A command to the program that draws the terminal, which the bell ends. -/
  | command
  /-- A string, which only the next order ends. -/
  | string
  deriving DecidableEq, Repr

namespace Reading

/-- Whether a character cancels whatever the terminal is in the middle of. -/
def cancels (c : Char) : Bool := c.toNat == 0x18 || c.toNat == 0x1A

/-- Whether a character can be the last one of an order. -/
def ends (first : Char) (c : Char) : Bool := first ≤ c && c ≤ '~'

/-- What the terminal is in the middle of behind one more character of an order. -/
def afterOrder (c : Char) : Reading :=
  if c == '[' then .control
  else if c == ']' then .command
  else if c == 'P' || c == 'X' || c == '^' || c == '_' then .string
  else if ' ' ≤ c && c ≤ '/' then .marked
  else if ends '0' c then .plain
  else .order

/-- Whether a character is shown, and what the terminal is in the middle of behind it. -/
def step (reading : Reading) (c : Char) : Bool × Reading :=
  if c == escape then (false, .order)
  else if cancels c then (true, .plain)
  else match reading with
    | .plain => (true, .plain)
    | .order => if c < ' ' then (true, .order) else (false, afterOrder c)
    | .marked => if c < ' ' then (true, .marked) else (false, if ends '0' c then .plain else .marked)
    | .control =>
      if c < ' ' then (true, .control) else (false, if ends '@' c then .plain else .control)
    | .command => (false, if c == bell then .plain else .command)
    | .string => (false, .string)

end Reading

/-- The characters that are shown of a text in whose front the terminal is in the middle of
something. -/
def visibleFrom (reading : Reading) : List Char → List Char
  | [] => []
  | c :: cs =>
    let (isShown, next) := reading.step c
    if isShown then c :: visibleFrom next cs else visibleFrom next cs

/-- The characters that are shown of a text. -/
def visible (text : List Char) : List Char := visibleFrom .plain text

/-- The columns of what is shown of a text. -/
def visibleWidth (text : List Char) : Nat := widthOf (visible text)

end StructVault.Text
