/-!
# Tables of code points

Character properties are tables written as text: rows with blanks or line breaks between them, each
a few hexadecimal numbers with hyphens between them. In a table of spans `41-5A` is a span, `5F` a
single code point, and `100-12E-2` every second code point of a span.
-/

namespace LiveForm.Text

/-- The value of a hexadecimal digit written with a capital letter. -/
def hexDigitValue (c : Char) : Nat :=
  if c ≤ '9' then c.toNat - '0'.toNat else c.toNat - 'A'.toNat + 10

/-- Puts a row, which comes in reverse, in front of other rows, unless it is empty. -/
def closeRow (row : List Nat) (after : List (List Nat)) : List (List Nat) :=
  if row.isEmpty then after else row.reverse :: after

/-- Reads the rest of a table. The numbers of the open row come in reverse; the first of them may
still grow. -/
def rowsFrom (row : List Nat) : List Char → List (List Nat)
  | [] => closeRow row []
  | ' ' :: r | '\n' :: r => closeRow row (rowsFrom [] r)
  | '-' :: r => rowsFrom (0 :: row) r
  | c :: r => rowsFrom ((16 * row.headD 0 + hexDigitValue c) :: row.tail) r

/-- The rows of a table. -/
def rows (table : String) : List (List Nat) := rowsFrom [] table.toList

/-- Code points at equal steps, from the first to the last. -/
structure Span where
  /-- The first code point. -/
  first : Nat
  /-- The last code point. -/
  last : Nat
  /-- The distance between two neighbours. -/
  step : Nat := 1
  deriving DecidableEq, Repr

/-- Whether a code point lies in a span. -/
def Span.contains (s : Span) (n : Nat) : Bool :=
  s.first ≤ n && n ≤ s.last && (n - s.first) % s.step == 0

/-- How many unbroken pieces a span has. -/
def Span.pieces (s : Span) : Nat := if s.step = 1 then 1 else (s.last - s.first) / s.step + 1

/-- The spans of a table of spans. -/
def spans (table : String) : List Span := (rows table).map fun row =>
  match row with
  | [first] => { first, last := first }
  | [first, last] => { first, last }
  | [first, last, step] => { first, last, step }
  | _ => { first := 1, last := 0 }

/-- Whether a code point lies in one of the spans. -/
def inSpans (table : List Span) (n : Nat) : Bool := table.any (·.contains n)

/-- Code points at equal steps that are all moved by the same distance. -/
structure Shift where
  /-- The first code point. -/
  first : Nat
  /-- The last code point. -/
  last : Nat
  /-- The distance between two neighbours. -/
  step : Nat
  /-- Where the first code point goes. -/
  target : Nat
  deriving DecidableEq, Repr

/-- The shifts of a table whose rows give the four numbers of a shift. -/
def shifts (table : String) : List Shift := (rows table).map fun row =>
  match row with
  | [first, last, step, target] => ⟨first, last, step, target⟩
  | _ => ⟨1, 0, 1, 0⟩

/-- Whether a shift moves a code point. -/
def Shift.moves (s : Shift) (n : Nat) : Bool :=
  s.first ≤ n && n ≤ s.last && (n - s.first) % s.step == 0

/-- The code point that a shift takes to a given one. -/
def Shift.origin? (s : Shift) (n : Nat) : Option Nat :=
  if s.target ≤ n && s.moves (n - s.target + s.first) then some (n - s.target + s.first) else none

/-- Where the first shift that moves a code point takes it. -/
def shifted? (table : List Shift) (n : Nat) : Option Nat :=
  (table.find? (·.moves n)).map fun s => n - s.first + s.target

end LiveForm.Text
