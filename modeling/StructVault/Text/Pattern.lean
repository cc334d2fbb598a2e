/-!
# Patterns

A pattern says which texts it fits: single characters, sequences, choices and repetitions. Its
ways to fit are ordered: the first choice comes before the second, and a repetition goes on
before it stops, or, where it is reluctant, stops before it goes on. A way that is done rules out
all ways after it, even if one of those would have gone further.

- `CharTest`, `Pattern`: the parts of a pattern.
- `Pattern.ways`: the ordered ways in which a pattern can begin.
- `Pattern.fits`: whether a whole text is taken by the ways that are not ruled out.
-/

namespace StructVault.Text

/-- Which characters stand for a part of a pattern: those in some ranges of code points, or all
others. -/
structure CharTest where
  ranges : List (Nat × Nat)
  negated : Bool := false
  deriving DecidableEq, Repr

namespace CharTest

/-- Whether a character passes. -/
def accepts (test : CharTest) (c : Char) : Bool :=
  (test.ranges.any fun (first, last) => first ≤ c.toNat && c.toNat ≤ last) != test.negated

/-- One character. -/
def exactly (c : Char) : CharTest := { ranges := [(c.toNat, c.toNat)] }

/-- Any character but a line feed. -/
def onLine : CharTest := { ranges := [(10, 10)], negated := true }

end CharTest

/-- Which texts fit. -/
inductive Pattern where
  /-- The empty text. -/
  | nothing
  /-- One character. -/
  | one (test : CharTest)
  /-- One pattern and then another. -/
  | seq (first second : Pattern)
  /-- One pattern or another; the first is tried first. -/
  | choice (first second : Pattern)
  /-- A pattern any number of times. -/
  | many (pattern : Pattern) (reluctant : Bool)
  /-- The start of the text. -/
  | start
  /-- The end of the text. -/
  | finish
  deriving DecidableEq, Repr

namespace Pattern

/-- A way in which a pattern can begin: it is done, or it takes a character and goes on. -/
inductive Way where
  | done
  | take (test : CharTest) (rest : Pattern)
  deriving DecidableEq, Repr

namespace Way

/-- A way with a pattern behind it, given the ways of that pattern. -/
def thenWays (pattern : Pattern) (ways : List Way) : Way → List Way
  | .done => ways
  | .take test rest => [.take test (.seq rest pattern)]

/-- A way that takes a character, with a pattern behind it. -/
def again? (pattern : Pattern) : Way → Option Way
  | .done => none
  | .take test rest => some (.take test (.seq rest pattern))

/-- What is left of a way after a character, if it takes that one. -/
def after? (c : Char) : Way → Option Pattern
  | .done => none
  | .take test rest => if test.accepts c then some rest else none

/-- The ways that are not ruled out: those up to the first that is done. -/
def upToDone : List Way → List Way
  | [] => []
  | .done :: _ => [.done]
  | way :: ways => way :: upToDone ways

end Way

/-- The ways in which a pattern can begin, at the start of the text or not and at its end or
not. -/
def ways (atStart atEnd : Bool) : Pattern → List Way
  | nothing => [.done]
  | one test => [.take test .nothing]
  | seq first second =>
    (first.ways atStart atEnd).flatMap (Way.thenWays second (second.ways atStart atEnd))
  | choice first second => first.ways atStart atEnd ++ second.ways atStart atEnd
  | many pattern reluctant =>
    let loops := (pattern.ways atStart atEnd).filterMap (Way.again? (many pattern reluctant))
    if reluctant then .done :: loops else loops ++ [.done]
  | start => if atStart then [.done] else []
  | finish => if atEnd then [.done] else []

/-- Whether a text is taken by patterns that are tried in their order. -/
def fitFrom (atStart : Bool) (patterns : List Pattern) : List Char → Bool
  | [] => (patterns.flatMap (ways atStart true)).contains .done
  | c :: cs =>
    let possible := Way.upToDone (patterns.flatMap (ways atStart false))
    fitFrom false (possible.filterMap (Way.after? c)).eraseDups cs

/-- Whether a pattern takes the whole of a text. -/
def fits (pattern : Pattern) (text : String) : Bool := fitFrom true [pattern] text.toList

end Pattern

end StructVault.Text
