import LiveForm.Decimal.Reading
import LiveForm.Json.Basic

/-!
# Numbers in JSON text

A literal without fraction and exponent that fits 64 bits is an integer. Every other literal is a
float: as many leading digits as fit an unsigned 64-bit significand, turned into a double and then
multiplied or divided by a power of ten, each step rounded. A literal beyond the largest double is
refused.
-/

namespace LiveForm.Json

open Decimal (isDigit digitValue ofDigits)

/-- The parts of a number literal. -/
structure Literal where
  /-- Whether a minus sign stands in front. -/
  negative : Bool
  /-- Digits before the point. -/
  whole : List Char
  /-- Digits after the point. -/
  fraction : List Char
  /-- The exponent, if one is written. -/
  exponent : Option Int
  deriving DecidableEq, Repr

/-- The largest unsigned 64-bit number. -/
def maxSignificand : Nat := UInt64.size - 1

/-- Takes digits into a significand while it stays within 64 bits. The second part counts the
digits that were taken, the third holds those that were not. -/
def absorb : Nat → List Char → Nat × Nat × List Char
  | significand, [] => (significand, 0, [])
  | significand, c :: r =>
    let next := 10 * significand + digitValue c
    if next ≤ maxSignificand then
      let (s, taken, left) := absorb next r
      (s, taken + 1, left)
    else (significand, 0, c :: r)

/-- A power of ten as a double. -/
def powerOfTen (n : Nat) : Float := Float.ofScientific 1 false n

/-- A double times a power of ten, by one multiplication or by divisions by at most `1e308` each.
Nothing if the product is not finite. -/
def scale? (x : Float) (exponent : Int) : Option Float :=
  if 0 ≤ exponent then
    if exponent ≤ 308 then
      let y := x * powerOfTen exponent.toNat
      if y.isInf then none else some y
    else if x == 0.0 then some x else none
  else if -308 ≤ exponent then some (x / powerOfTen (-exponent).toNat)
  else if x == 0.0 then some x
  else scale? (x / powerOfTen 308) (exponent + 308)
termination_by (-exponent).toNat

/-- The size of a literal as a double. -/
def Literal.size? (l : Literal) : Option Float :=
  let (whole, _, dropped) := absorb 0 l.whole
  let (significand, places, _) := absorb whole l.fraction
  scale? (Float.ofNat significand) (l.exponent.getD 0 + dropped.length - places)

/-- Whether a literal is written without fraction and exponent. -/
def Literal.isWhole (l : Literal) : Bool := l.fraction.isEmpty && l.exponent.isNone

/-- The value of a literal. Negative zero is a float. -/
def Literal.value? (l : Literal) : Option Json :=
  let n := ofDigits l.whole
  if l.isWhole && !l.negative && n ≤ maxSignificand then some (.int n)
  else if l.isWhole && l.negative && 0 < n && n ≤ UInt64.size / 2 then some (.int (-n))
  else l.size?.map fun x => .float (if l.negative then -x else x)

/-- The digits at the start of a text and what follows them. -/
def digitsOf (s : List Char) : List Char × List Char := (s.takeWhile isDigit, s.dropWhile isDigit)

/-- The exponent at the start of a text, if an exponent mark stands there. The outer option refuses
a mark without digits. -/
def exponentOf : List Char → Option (Option Int × List Char)
  | c :: r =>
    if c = 'e' ∨ c = 'E' then
      let (minus, r) := match r with
        | '-' :: t => (true, t)
        | '+' :: t => (false, t)
        | t => (false, t)
      let (digits, rest) := digitsOf r
      if digits.isEmpty then none
      else some (some (if minus then -(ofDigits digits : Int) else ofDigits digits), rest)
    else some (none, c :: r)
  | [] => some (none, [])

/-- The number literal at the start of a text: no leading zeros, digits on both sides of a point. -/
def literalOf (s : List Char) : Option (Literal × List Char) :=
  let (negative, s) := match s with
    | '-' :: r => (true, r)
    | r => (false, r)
  let (whole, rest) := digitsOf s
  let leadingZero := whole.head? == some '0' && decide (1 < whole.length)
  if whole.isEmpty || leadingZero then none
  else
    let (point, fraction, rest) := match rest with
      | '.' :: r => (true, digitsOf r)
      | r => (false, [], r)
    if point && fraction.isEmpty then none
    else (exponentOf rest).map fun (exponent, rest) => (⟨negative, whole, fraction, exponent⟩, rest)

end LiveForm.Json
