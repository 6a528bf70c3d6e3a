import LiveForm.Pattern.CharSet
import LiveForm.Text.Word

/-!
# Regular expressions

A regular expression as a set of texts in context, and whether it matches somewhere in a text.
Matching works on marks, one for each place of the text: an expression takes the places where it may
start to the places where it may end.
-/

namespace LiveForm.Pattern

/-- A place in a text: the characters on its two sides. -/
structure Place where
  before : Option Char
  after : Option Char
  deriving DecidableEq, Repr

/-- The places of a text that comes after a character. -/
def placesFrom (before : Option Char) : List Char → List Place
  | [] => [⟨before, none⟩]
  | c :: r => ⟨before, some c⟩ :: placesFrom (some c) r

/-- What a word anchor asks for. -/
inductive WordEdge where
  | boundary
  | notBoundary
  | start
  | finish
  | startHalf
  | finishHalf
  deriving DecidableEq, Repr

/-- A condition on a place. -/
inductive Anchor where
  | textStart
  | textEnd
  /-- The start of a line, where a carriage return may or may not end a line. -/
  | lineStart (crlf : Bool)
  /-- The end of a line. -/
  | lineEnd (crlf : Bool)
  /-- A place at the edge of a word, of ASCII or of any characters. -/
  | word (edge : WordEdge) (ascii : Bool)
  deriving DecidableEq, Repr

/-- Whether a character is a word character of ASCII, or of any kind. -/
def isWordChar (ascii : Bool) (c : Char) : Bool :=
  if ascii then c.isAlphanum || c == '_' else Text.isWord c

/-- Whether an edge has its word characters on the sides that it asks for. -/
def WordEdge.holds (edge : WordEdge) (before after : Bool) : Bool :=
  match edge with
  | .boundary => before != after
  | .notBoundary => before == after
  | .start => !before && after
  | .finish => before && !after
  | .startHalf => !before
  | .finishHalf => !after

/-- Whether a condition holds at a place. A carriage return and a line feed in a row are one end of
a line. -/
def Anchor.holds (a : Anchor) (p : Place) : Bool :=
  match a with
  | .textStart => p.before.isNone
  | .textEnd => p.after.isNone
  | .lineStart false => p.before.all (· == '\n')
  | .lineEnd false => p.after.all (· == '\n')
  | .lineStart true => p.before.all fun c => c == '\n' || (c == '\r' && p.after != some '\n')
  | .lineEnd true => p.after.all fun c => c == '\r' || (c == '\n' && p.before != some '\r')
  | .word edge ascii =>
    edge.holds (p.before.any (isWordChar ascii)) (p.after.any (isWordChar ascii))

/-- A regular expression. -/
inductive Regex where
  /-- Nothing, at any place. -/
  | empty
  /-- One character of a set. -/
  | one (set : CharSet)
  /-- Nothing, at a place where a condition holds. -/
  | anchor (a : Anchor)
  | seq (a b : Regex)
  | either (a b : Regex)
  /-- As many matches in a row as two bounds allow. -/
  | repeated (r : Regex) (least : Nat) (most : Option Nat)
  deriving DecidableEq, Repr

/-- Marks on the places of a text. -/
abbrev Marks := List Bool

namespace Marks

/-- The places marked by either. -/
def both (a b : Marks) : Marks := a.zipWith (· || ·) b

/-- The places marked by the first only. -/
def without (a b : Marks) : Marks := a.zipWith (fun x y => x && !y) b

/-- The marked places that pass a test. -/
def keep (test : Place → Bool) (places : List Place) (m : Marks) : Marks :=
  m.zipWith (fun x p => x && test p) places

/-- The places right after the marked ones. -/
def shift (m : Marks) : Marks := false :: m.dropLast

/-- Whether any place is marked. -/
def any (m : Marks) : Bool := List.any m id

/-- The marks after so many steps; it stops early where a step changes nothing. -/
def iterate (step : Marks → Marks) : Nat → Marks → Marks
  | 0, m => m
  | n + 1, m =>
    let next := step m
    if next == m then m else iterate step n next

/-- The places reached, and those that can be reached by steps from those reached last. The fuel
bounds the number of steps. -/
def closure (step : Marks → Marks) : Nat → (reached last : Marks) → Marks
  | 0, reached, _ => reached
  | fuel + 1, reached, last =>
    if last.any then
      let new := (step last).without reached
      closure step fuel (reached.both new) new
    else reached

end Marks

namespace Regex

/-- The places where matches end that start at marked places. -/
def reach (places : List Place) : Regex → Marks → Marks
  | empty, m => m
  | one set, m => (m.keep (fun p => p.after.any fun c => set.contains c.toNat) places).shift
  | anchor a, m => m.keep a.holds places
  | seq a b, m => b.reach places (a.reach places m)
  | either a b, m => (a.reach places m).both (b.reach places m)
  | repeated r least none, m =>
    let start := Marks.iterate (r.reach places) least m
    Marks.closure (r.reach places) (places.length + 1) start start
  | repeated r least (some most), m =>
    Marks.iterate (fun m => m.both (r.reach places m)) (most - least)
      (Marks.iterate (r.reach places) least m)

/-- Whether an expression matches somewhere in a text. -/
def occursIn (r : Regex) (text : List Char) : Bool :=
  let places := placesFrom none text
  (r.reach places (places.map fun _ => true)).any

end Regex

end LiveForm.Pattern
