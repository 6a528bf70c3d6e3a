import LiveForm.Decimal.Reading
import LiveForm.Json.Reader

/-!
# Numbers, truth values and times in TOML

Integers fit 64 bits. Digits may be grouped by single underscores. A time is kept as the text of its
normal form, under a key of its own.
-/

namespace LiveForm.Toml

open Decimal (isDigit ofDigits)

/-- Digits grouped by single underscores, after at least one digit: the digits and what follows. -/
def groupedDigits (isDigit : Char → Bool) : List Char → List Char × List Char
  | '_' :: c :: r =>
    if isDigit c then
      let (ds, rest) := groupedDigits isDigit r
      (c :: ds, rest)
    else ([], '_' :: c :: r)
  | c :: r =>
    if isDigit c then
      let (ds, rest) := groupedDigits isDigit r
      (c :: ds, rest)
    else ([], c :: r)
  | [] => ([], [])

/-- A group of digits that starts with a digit. -/
def digitsOf (isDigit : Char → Bool) : List Char → Option (List Char × List Char)
  | c :: r =>
    if isDigit c then
      let (ds, rest) := groupedDigits isDigit r
      some (c :: ds, rest)
    else none
  | [] => none

/-- A sign, or its absence, and what follows. The flag tells whether it is a minus. -/
def signOf : List Char → Bool × List Char
  | '-' :: r => (true, r)
  | '+' :: r => (false, r)
  | r => (false, r)

/-- Digits without a leading zero, unless zero is all there is. -/
def wholeOf : List Char → Option (List Char × List Char)
  | '0' :: r => some (['0'], r)
  | r => digitsOf isDigit r

/-- The exponent of a float, if its mark stands at the start of the text. -/
def exponentOf : List Char → Option (Int × List Char)
  | c :: r =>
    if c = 'e' ∨ c = 'E' then
      let (minus, r) := signOf r
      (digitsOf isDigit r).map fun (ds, rest) =>
        (if minus then -(ofDigits ds : Int) else ofDigits ds, rest)
    else none
  | [] => none

/-- A float with a fraction, an exponent or both. One that is too large is refused, unless it is
negative. -/
def floatOf (s : List Char) : Option (Json × List Char) := do
  let (minus, r) := signOf s
  let (whole, r) ← wholeOf r
  let (fraction, r) ←
    match r with
    | '.' :: t => digitsOf isDigit t
    | t => some ([], t)
  let (exponent, rest) ←
    match exponentOf r with
    | some (e, t) => some (e, t)
    | none => if fraction.isEmpty then none else some (0, r)
  let x := (Decimal.Parts.mk whole fraction exponent).toFloat
  let x := if minus then -x else x
  if x == 1.0 / 0.0 then none else some (.float x, rest)

/-- The words for infinity and not-a-number, with or without a sign. -/
def specialFloatOf (s : List Char) : Option (Json × List Char) :=
  let (minus, r) := signOf s
  match r with
  | 'i' :: 'n' :: 'f' :: rest => some (.float (if minus then -(1.0 / 0.0) else 1.0 / 0.0), rest)
  | 'n' :: 'a' :: 'n' :: rest => some (.float (0.0 / 0.0), rest)
  | _ => none

/-- The value of a digit in any base up to sixteen. -/
def digitIn (base : Nat) (c : Char) : Bool := (Json.hexValue? c).any (· < base)

/-- The number that digits spell in a base. -/
def ofDigitsIn (base : Nat) (ds : List Char) : Nat :=
  ds.foldl (fun n c => base * n + (Json.hexValue? c).getD 0) 0

/-- An integer in a base, after its mark. -/
def integerIn (base : Nat) (s : List Char) : Option (Json × List Char) :=
  (digitsOf (digitIn base) s).bind fun (ds, rest) =>
    let n := ofDigitsIn base ds
    if n ≤ Int64.maxValue.toInt then some (.int n, rest) else none

/-- An integer. -/
def integerOf (s : List Char) : Option (Json × List Char) :=
  match s with
  | '0' :: 'x' :: r => integerIn 16 r
  | '0' :: 'o' :: r => integerIn 8 r
  | '0' :: 'b' :: r => integerIn 2 r
  | s =>
    let (minus, r) := signOf s
    (wholeOf r).bind fun (ds, rest) =>
      let n : Int := if minus then -(ofDigits ds : Int) else ofDigits ds
      if Int64.minValue.toInt ≤ n ∧ n ≤ Int64.maxValue.toInt then some (.int n, rest) else none

/-- A number of exactly so many digits between two bounds. -/
def fixedDigits (count low high : Nat) (s : List Char) : Option (Nat × List Char) :=
  let ds := s.take count
  if ds.length = count ∧ ds.all isDigit then
    let n := ofDigits ds
    if low ≤ n ∧ n ≤ high then some (n, s.drop count) else none
  else none

/-- What follows a character, if the text starts with it. -/
def after? (c : Char) : List Char → Option (List Char)
  | d :: r => if c = d then some r else none
  | [] => none

/-- Whether a year has a leap day. -/
def isLeapYear (year : Nat) : Bool := year % 4 == 0 && (year % 100 != 0 || year % 400 == 0)

/-- The number of days of a month. -/
def daysIn (year month : Nat) : Nat :=
  if month = 2 then (if isLeapYear year then 29 else 28)
  else if month = 4 ∨ month = 6 ∨ month = 9 ∨ month = 11 then 30
  else 31

/-- A number with zeros in front, so many digits wide. -/
def padded (width n : Nat) : List Char :=
  let ds := Nat.toDigits 10 n
  List.replicate (width - ds.length) '0' ++ ds

/-- The date at the start of a text, in its normal form. -/
def dateOf (s : List Char) : Option (List Char × List Char) := do
  let (year, r) ← fixedDigits 4 0 9999 s
  let (month, r) ← fixedDigits 2 1 12 (← after? '-' r)
  let (day, r) ← fixedDigits 2 1 (daysIn year month) (← after? '-' r)
  return (padded 4 year ++ '-' :: padded 2 month ++ '-' :: padded 2 day, r)

/-- A fraction of a second in normal form: at most nine digits, no zeros at the end. -/
def fractionText (ds : List Char) : List Char :=
  let kept := ((ds.take 9).reverse.dropWhile (· == '0')).reverse
  if kept.isEmpty then [] else '.' :: kept

/-- The time of day at the start of a text, in its normal form. -/
def timeOf (s : List Char) : Option (List Char × List Char) := do
  let (hour, r) ← fixedDigits 2 0 23 s
  let (minute, r) ← fixedDigits 2 0 59 (← after? ':' r)
  let (second, r) ← fixedDigits 2 0 60 (← after? ':' r)
  let time := padded 2 hour ++ ':' :: padded 2 minute ++ ':' :: padded 2 second
  match r with
  | '.' :: t =>
    let ds := t.takeWhile isDigit
    if ds.isEmpty then return (time, r) else return (time ++ fractionText ds, t.dropWhile isDigit)
  | _ => return (time, r)

/-- The distance from universal time at the start of a text, in its normal form. -/
def offsetOf (s : List Char) : Option (List Char × List Char) :=
  match s with
  | 'Z' :: r | 'z' :: r => some (['Z'], r)
  | sign :: r =>
    if sign = '+' ∨ sign = '-' then do
      let (hour, r) ← fixedDigits 2 0 23 r
      let (minute, r) ← fixedDigits 2 0 59 (← after? ':' r)
      let sign := if hour = 0 ∧ minute = 0 then '+' else sign
      return (sign :: padded 2 hour ++ ':' :: padded 2 minute, r)
    else none
  | [] => none

/-- The mark between a date and a time. -/
def betweenDateAndTime? : List Char → Option (List Char)
  | 'T' :: r | 't' :: r | ' ' :: r => some r
  | _ => none

/-- The date, the time of day or both at the start of a text, in normal form. -/
def momentOf (s : List Char) : Option (List Char × List Char) :=
  match dateOf s with
  | some (date, r) =>
    match (betweenDateAndTime? r).bind timeOf with
    | some (time, r) =>
      match offsetOf r with
      | some (offset, r) => some (date ++ 'T' :: time ++ offset, r)
      | none => some (date ++ 'T' :: time, r)
    | none => some (date, r)
  | none => timeOf s

/-- The key under which a date or time is kept. -/
def momentKey : String := "$__toml_private_datetime"

/-- The date or time at the start of a text as a value. -/
def momentValueOf (s : List Char) : Option (Json × List Char) :=
  (momentOf s).map fun (t, rest) => (.object [(momentKey, .text (String.ofList t))], rest)

/-- The truth value at the start of a text. -/
def boolOf : List Char → Option (Json × List Char)
  | 't' :: 'r' :: 'u' :: 'e' :: r => some (.bool true, r)
  | 'f' :: 'a' :: 'l' :: 's' :: 'e' :: r => some (.bool false, r)
  | _ => none

/-- The number, time or truth value at the start of a text: the first reading that succeeds. -/
def scalarOf (s : List Char) : Option (Json × List Char) :=
  momentValueOf s <|> floatOf s <|> specialFloatOf s <|> integerOf s <|> boolOf s

end LiveForm.Toml
