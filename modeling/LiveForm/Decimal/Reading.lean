/-!
# Reading decimals

A decimal in text is a run of digits with at most one point and an optional exponent. Read exactly,
it is the double nearest to it, ties to even.
-/

namespace LiveForm.Decimal

/-- Whether the character is an ASCII digit. -/
def isDigit (c : Char) : Bool := '0' ≤ c && c ≤ '9'

/-- The value of an ASCII digit. -/
def digitValue (c : Char) : Nat := c.toNat - '0'.toNat

/-- The number that a run of digits spells. -/
def ofDigits (digits : List Char) : Nat := digits.foldl (fun n c => 10 * n + digitValue c) 0

/-- The double nearest to `mantissa * 10 ^ exponent`. An exponent far outside the range of doubles
is decided without building the power. -/
def nearest (mantissa : Nat) (exponent : Int) : Float :=
  let size : Int := (Nat.log2 mantissa : Int) * 30103 / 100000 + exponent
  if mantissa = 0 then 0.0
  else if 400 < size then Float.ofScientific 1 false 400
  else if size < -400 then 0.0
  else if 0 ≤ exponent then Float.ofScientific mantissa false exponent.toNat
  else Float.ofScientific mantissa true (-exponent).toNat

/-- The parts of a decimal: digits before and after the point, and the exponent. -/
structure Parts where
  /-- Digits before the point. -/
  whole : List Char
  /-- Digits after the point. -/
  fraction : List Char
  /-- The exponent, zero if none is written. -/
  exponent : Int
  deriving DecidableEq, Repr

/-- The double nearest to a decimal given by its parts. -/
def Parts.toFloat (p : Parts) : Float :=
  nearest (ofDigits (p.whole ++ p.fraction)) (p.exponent - p.fraction.length)

/-- A signed run of digits, with nothing after it. -/
def signedDigits? : List Char → Option Int
  | '-' :: ds => if ds ≠ [] ∧ ds.all isDigit then some (-(ofDigits ds : Int)) else none
  | '+' :: ds => if ds ≠ [] ∧ ds.all isDigit then some (ofDigits ds) else none
  | ds => if ds ≠ [] ∧ ds.all isDigit then some (ofDigits ds) else none

/-- The parts of an unsigned decimal. At least one digit stands before or after the point. -/
def parts? (s : List Char) : Option Parts :=
  let whole := s.takeWhile isDigit
  let rest := s.dropWhile isDigit
  let (fraction, tail) := match rest with
    | '.' :: r => (r.takeWhile isDigit, r.dropWhile isDigit)
    | r => ([], r)
  if whole.isEmpty && fraction.isEmpty then none
  else match tail with
    | [] => some ⟨whole, fraction, 0⟩
    | e :: r =>
      if e = 'e' ∨ e = 'E' then (signedDigits? r).map (⟨whole, fraction, ·⟩) else none

/-- An unsigned decimal, or one of the words for infinity and not-a-number in any letter case. -/
def unsigned? (s : List Char) : Option Float :=
  match parts? s with
  | some p => some p.toFloat
  | none =>
    let word := s.map Char.toLower
    if word = "inf".toList ∨ word = "infinity".toList then some (1.0 / 0.0)
    else if word = "nan".toList then some (0.0 / 0.0)
    else none

/-- A decimal with an optional sign. -/
def float? : List Char → Option Float
  | '-' :: s => (unsigned? s).map (- ·)
  | '+' :: s => unsigned? s
  | s => unsigned? s

end LiveForm.Decimal
