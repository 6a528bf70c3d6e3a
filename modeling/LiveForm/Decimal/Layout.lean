import LiveForm.Decimal.Shortest

/-!
# Layouts of numbers

How the digits of a number become text: positional, with or without an exponent. A layout is a
small record, so that the two number formats of the library differ in data and not in code.
-/

namespace LiveForm.Decimal

/-- The decimal digits of a natural number. -/
def digitChars (n : Nat) : List Char := Nat.toDigits 10 n

/-- The digits written out around a decimal point, without an exponent. -/
def Digits.positional (d : Digits) : List Char :=
  let digits := digitChars d.coefficient
  if 0 ≤ d.exponent then digits ++ List.replicate d.exponent.toNat '0'
  else
    let places := (-d.exponent).toNat
    let padded := List.replicate (places + 1 - digits.length) '0' ++ digits
    padded.take (padded.length - places) ++ '.' :: padded.drop (padded.length - places)

/-- One digit, the rest after a point if there is any, and a signed exponent. -/
def Digits.scientific (d : Digits) : List Char :=
  let digits := digitChars d.coefficient
  let power := d.exponent + (digits.length - 1 : Nat)
  let sign := if power < 0 then '-' else '+'
  digits.take 1 ++ (if digits.length ≤ 1 then [] else '.' :: digits.drop 1) ++
    'e' :: sign :: digitChars power.natAbs

/-- The power of ten of the first digit. -/
def Digits.leading (d : Digits) : Int := d.exponent + ((digitChars d.coefficient).length - 1 : Nat)

/-- How a number format lays out finite numbers. -/
structure Layout where
  /-- Which of two equally short and equally near texts is taken. -/
  tie : Tie
  /-- Powers of ten of the first digit that are written positionally; all of them if absent. -/
  positionalPowers : Option (Int × Int)
  /-- Whether a whole number gets `.0`. -/
  keepsFraction : Bool
  deriving DecidableEq, Repr

/-- The text of the size of a number in a layout. -/
def Layout.size (layout : Layout) (x : Float) : List Char :=
  let d := shortest layout.tie x
  let fits := match layout.positionalPowers with
    | none => true
    | some (low, high) => decide (low ≤ d.leading) && decide (d.leading ≤ high)
  if d.coefficient = 0 || fits then
    d.positional ++ (if layout.keepsFraction && decide (0 ≤ d.exponent) then ['.', '0'] else [])
  else d.scientific

/-- The text of a number in a layout: its sign, then its size. -/
def Layout.render (layout : Layout) (x : Float) : String :=
  if x.isNaN then "NaN"
  else
    let sign := if x.toBits >>> 63 = 1 then ['-'] else []
    let size := if x.isInf then ['i', 'n', 'f'] else layout.size x
    String.ofList (sign ++ size)

/-- Numbers in data files: positional from `1e-5` up to but not including `1e16`, always with a
fraction digit, so that a fraction is told from an integer. -/
def dataLayout : Layout := ⟨.toEven, some (-5, 15), true⟩

/-- Numbers for readers: all digits written out, no exponent, no empty fraction. -/
def plainLayout : Layout := ⟨.up, none, false⟩

end LiveForm.Decimal
