import StructVault.Text.Pattern

/-!
# Patterns as text

A pattern is written with its characters as they are. A dot stands for any character on the
line, brackets for one of several characters, a bar for a choice, and parentheses keep a part
together; a star, a plus or a question mark behind a part repeats it, and a question mark behind
that makes the repetition reluctant. A circumflex is the start of the text and a dollar sign its
end. A backslash in front of a mark takes the mark for itself.

- `Token`, `tokens?`: the marks and characters of a text.
- `Level`, `build?`: parts put together, inside the parentheses that are open.
- `ofText?`: the pattern of a text, if it is one.
-/

namespace StructVault.Text.Pattern

/-! ## Marks and characters -/

/-- How often a part is repeated. -/
inductive Repeat where
  | any
  | atLeastOnce
  | atMostOnce
  deriving DecidableEq, Repr

/-- A part of a pattern that is complete, or a mark. -/
inductive Token where
  | part (pattern : Pattern)
  | repeated (repeats : Repeat) (reluctant : Bool)
  | bar
  | opening
  | closing
  deriving DecidableEq, Repr

/-- The character that a backslash in front of another one stands for. Letters other than those
of the usual controls have no such meaning here. -/
def escaped? (c : Char) : Option Char :=
  if c == 'n' then some '\n'
  else if c == 'r' then some '\r'
  else if c == 't' then some '\t'
  else if c == 'a' then some (Char.ofNat 7)
  else if c == 'f' then some (Char.ofNat 12)
  else if c == 'v' then some (Char.ofNat 11)
  else if c.toNat < 0x80 && !c.isAlphanum && c != '<' && c != '>' then some c
  else none

/-- A character inside brackets, and what follows. -/
def bracketChar? : List Char → Option (Char × List Char)
  | '\\' :: c :: cs => (escaped? c).map fun c => (c, cs)
  | c :: cs => if c == '\\' || c == '[' then none else some (c, cs)
  | [] => none

/-- The characters up to a closing bracket, and what follows it. A hyphen between two characters
stands for all from one to the other. -/
def bracket? : (fuel : Nat) → List Char → Option (List (Nat × Nat) × List Char)
  | 0, _ => none
  | _ + 1, ']' :: cs => some ([], cs)
  | fuel + 1, cs => do
    let (first, rest) ← bracketChar? cs
    let (last, rest) ← match rest with
      | '-' :: next :: more =>
        if next == ']' then some (first, rest)
        else if next == '-' then none
        else bracketChar? (next :: more)
      | _ => some (first, rest)
    if last < first then none
    else
      let (ranges, behind) ← bracket? fuel rest
      some ((first.toNat, last.toNat) :: ranges, behind)

/-- The characters of a bracket and what follows it. A closing bracket right at the front is one
of the characters. -/
def bracketTest? (cs : List Char) : Option (CharTest × List Char) := do
  let negated := cs.head? == some '^'
  let cs := if negated then cs.tail else cs
  let (ranges, behind) ← match cs with
    | ']' :: cs =>
      (bracket? (cs.length + 1) cs).map fun (ranges, behind) =>
        ((']'.toNat, ']'.toNat) :: ranges, behind)
    | cs => bracket? (cs.length + 1) cs
  some ({ ranges, negated }, behind)

/-- The token at the front of a text, and what follows. -/
def token? : List Char → Option (Token × List Char)
  | [] => none
  | '\\' :: c :: cs =>
    if c == 'A' then some (.part .start, cs)
    else if c == 'z' then some (.part .finish, cs)
    else (escaped? c).map fun c => (.part (.one (.exactly c)), cs)
  | '(' :: '?' :: ':' :: cs => some (.opening, cs)
  | c :: cs =>
    let repeated := fun repeats =>
      if cs.head? == some '?' then some (.repeated repeats true, cs.tail)
      else some (.repeated repeats false, cs)
    if c == '\\' || c == '\x7b' then none
    else if c == '.' then some (.part (.one .onLine), cs)
    else if c == '^' then some (.part .start, cs)
    else if c == '$' then some (.part .finish, cs)
    else if c == '|' then some (.bar, cs)
    else if c == '(' then some (.opening, cs)
    else if c == ')' then some (.closing, cs)
    else if c == '*' then repeated .any
    else if c == '+' then repeated .atLeastOnce
    else if c == '?' then repeated .atMostOnce
    else if c == '[' then (bracketTest? cs).map fun (test, behind) => (.part (.one test), behind)
    else some (.part (.one (.exactly c)), cs)

/-- The tokens of a text. -/
def tokens? : (fuel : Nat) → List Char → Option (List Token)
  | _, [] => some []
  | 0, _ => none
  | fuel + 1, cs => do
    let (token, rest) ← token? cs
    return token :: (← tokens? fuel rest)

/-! ## Putting parts together -/

/-- What stands between two parentheses so far: choices that are complete, and the parts of the
last one, last part first. -/
structure Level where
  choices : List Pattern := []
  parts : List Pattern := []
  deriving DecidableEq, Repr

/-- The patterns of a list one behind the other, given last one first. -/
def sequence (parts : List Pattern) : Pattern :=
  parts.foldl (fun rest part => if rest == .nothing then part else .seq part rest) .nothing

namespace Level

/-- The last choice is complete. -/
def choose (level : Level) : Level := { choices := level.choices ++ [sequence level.parts] }

/-- One more part. -/
def add (level : Level) (part : Pattern) : Level := { level with parts := part :: level.parts }

/-- All that stands between two parentheses. -/
def pattern (level : Level) : Pattern :=
  level.choices.foldr Pattern.choice (sequence level.parts)

/-- The last part is repeated, if there is one. -/
def repeat? (level : Level) (repeats : Repeat) (reluctant : Bool) : Option Level :=
  match level.parts with
  | [] => none
  | part :: parts =>
    let repeated := match repeats with
      | .any => part.many reluctant
      | .atLeastOnce => part.seq (part.many reluctant)
      | .atMostOnce => if reluctant then .choice .nothing part else .choice part .nothing
    some { level with parts := repeated :: parts }

end Level

/-- The pattern of a list of tokens; `around` are the levels outside the innermost parenthesis
that is open. -/
def build? (level : Level) (around : List Level) : List Token → Option Pattern
  | [] => if around.isEmpty then some level.pattern else none
  | .part pattern :: tokens => build? (level.add pattern) around tokens
  | .repeated repeats reluctant :: tokens => do
    build? (← level.repeat? repeats reluctant) around tokens
  | .bar :: tokens => build? level.choose around tokens
  | .opening :: tokens => build? {} (level :: around) tokens
  | .closing :: tokens =>
    match around with
    | [] => none
    | outer :: around => build? (outer.add level.pattern) around tokens

/-- The pattern of a text, if it is one. -/
def ofText? (text : List Char) : Option Pattern := do
  build? {} [] (← tokens? text.length text)

end StructVault.Text.Pattern
