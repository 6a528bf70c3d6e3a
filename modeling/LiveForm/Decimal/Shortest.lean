/-!
# Shortest decimals

A finite double is a natural number times a power of two. The decimals that round to it fill an
interval around it, and the text of a double shows the member of that interval with the fewest
digits, of those the nearest. The search runs in exact arithmetic on natural numbers.
-/

namespace LiveForm.Decimal

/-- The number `coefficient * 10 ^ exponent`. -/
structure Digits where
  /-- The significant digits, read as one natural number. -/
  coefficient : Nat
  /-- The power of ten of the last digit. -/
  exponent : Int
  deriving DecidableEq, Repr

/-- Which of two equally near decimals is taken. -/
inductive Tie where
  /-- The one whose last digit is even. -/
  | toEven
  /-- The larger one. -/
  | up
  deriving DecidableEq, Repr

/-- A positive double, `significand * 2 ^ power`, with the significand below `2 ^ 53`. -/
structure Binary where
  /-- The significand with its leading bit. -/
  significand : Nat
  /-- The power of two of the last bit. -/
  power : Int
  deriving DecidableEq, Repr

namespace Binary

/-- The significand and exponent in the bits of a finite double, its sign left out. -/
def ofBits (bits : UInt64) : Binary :=
  let field := ((bits >>> 52) &&& 0x7FF).toNat
  let fraction := (bits &&& 0xFFFFFFFFFFFFF).toNat
  if field = 0 then ⟨fraction, -1074⟩ else ⟨fraction + 4503599627370496, field - 1075⟩

/-- Whether the gap below the number is half the gap above it. -/
def startsBinade (b : Binary) : Bool := b.significand == 4503599627370496 && decide (-1074 < b.power)

/-- The number, the lower and the upper end of its rounding interval, and `10 ^ exponent`, all four
multiplied by one common factor that makes them natural numbers. -/
def scaled (b : Binary) (exponent : Int) : Nat × Nat × Nat × Nat :=
  let unit := Nat.pow 2 (b.power - 2).toNat * Nat.pow 10 (-exponent).toNat
  let below := if b.startsBinade then 1 else 2
  (4 * b.significand * unit, (4 * b.significand - below) * unit, (4 * b.significand + 2) * unit,
    Nat.pow 10 exponent.toNat * Nat.pow 2 (2 - b.power).toNat)

/-- The power of ten at or just below the number, found from its binary length and corrected. -/
def magnitude (b : Binary) : Int :=
  let guess : Int := (((Nat.log2 b.significand : Int) + b.power) * 30103).fdiv 100000
  let atLeast (e : Int) : Bool := let (v, _, _, ten) := b.scaled e; decide (ten ≤ v)
  if atLeast (guess + 1) then guess + 1 else if atLeast guess then guess else guess - 1

/-- The multiple of `10 ^ exponent` nearest to the number, if one lies in its rounding interval. -/
def onGrid? (tie : Tie) (b : Binary) (exponent : Int) : Option Nat :=
  let (v, low, high, step) := b.scaled exponent
  let inside (n : Nat) : Bool :=
    if b.significand % 2 = 0 then low ≤ n * step && n * step ≤ high
    else low < n * step && n * step < high
  let under := v / step
  let rest := v % step
  let upper := under + 1
  match inside under, inside upper with
  | true, true =>
    if 2 * rest < step then some under
    else if step < 2 * rest then some upper
    else match tie with
      | .up => some upper
      | .toEven => some (if under % 2 = 0 then under else upper)
  | true, false => some under
  | false, true => some upper
  | false, false => none

/-- Tries grids from `10 ^ exponent` downwards, each ten times finer than the last. -/
def firstGrid (tie : Tie) (b : Binary) : Nat → Int → Digits
  | 0, exponent => ⟨(b.scaled exponent).1 / (b.scaled exponent).2.2.2, exponent⟩
  | fuel + 1, exponent =>
    match b.onGrid? tie exponent with
    | some n => ⟨n, exponent⟩
    | none => firstGrid tie b fuel (exponent - 1)

end Binary

/-- Drops the zeros at the end of a coefficient, at most as many as the fuel. -/
def Digits.strip : Nat → Digits → Digits
  | 0, d => d
  | fuel + 1, d =>
    if d.coefficient ≠ 0 ∧ d.coefficient % 10 = 0 then
      strip fuel ⟨d.coefficient / 10, d.exponent + 1⟩
    else d

/-- The shortest decimal that rounds to the size of a finite double. Seventeen digits always
suffice, and zero has the coefficient zero. -/
def shortest (tie : Tie) (x : Float) : Digits :=
  let b := Binary.ofBits x.toBits
  if b.significand = 0 then ⟨0, 0⟩ else (b.firstGrid tie 17 b.magnitude).strip 20

end LiveForm.Decimal
