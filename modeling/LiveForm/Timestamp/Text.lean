import LiveForm.Decimal.Reading
import LiveForm.Text.Blank
import LiveForm.Timestamp

/-!
# The text of a timestamp

A timestamp is written in one way: date and time with a `T` between them, the fraction with three,
six or nine digits if it is not zero, and a `Z`. Reading is lenient: blanks may stand between the
parts, numbers need no leading zeros, and any offset from universal time may be given.
-/

namespace LiveForm.Timestamp

/-- A number with at least so many digits. -/
def padded (width n : Nat) : String :=
  let digits := toString n
  "".pushn '0' (width - digits.length) ++ digits

/-- The text of a year. Beyond four digits and before the year 0 it has a sign. -/
def yearText (year : Int) : String :=
  if 0 ≤ year ∧ year ≤ 9999 then padded 4 year.toNat
  else (if year < 0 then "-" else "+") ++ padded 4 year.natAbs

/-- The text of a fraction of a second. -/
def fractionText (nano : Nat) : String :=
  if nano = 0 then ""
  else if nano % 1000000 = 0 then "." ++ padded 3 (nano / 1000000)
  else if nano % 1000 = 0 then "." ++ padded 6 (nano / 1000)
  else "." ++ padded 9 nano

/-- The text of a timestamp. -/
def text (t : Timestamp) : String :=
  yearText t.date.year ++ "-" ++ padded 2 t.date.month ++ "-" ++ padded 2 t.date.day ++ "T" ++
    padded 2 t.clock.hour ++ ":" ++ padded 2 t.clock.minute ++ ":" ++ padded 2 t.clock.second ++
    fractionText t.clock.nano ++ "Z"

/-- The number at the start of a text, of at least one and at most so many digits. -/
def number? (most : Nat) (s : List Char) : Option (Nat × List Char) :=
  let digits := (s.take most).takeWhile Decimal.isDigit
  if digits.isEmpty then none else some (Decimal.ofDigits digits, s.drop digits.length)

/-- A number with blanks before it. -/
def part? (s : List Char) : Option (Nat × List Char) := number? 2 (Text.trimStart s)

/-- What follows a sign that may have blanks before it. -/
def after? (sign : Char) (s : List Char) : Option (List Char) :=
  match Text.trimStart s with
  | c :: rest => if c = sign then some rest else none
  | [] => none

/-- The year at the start of a text: up to four digits, or a sign and any number of digits. -/
def year? (s : List Char) : Option (Int × List Char) :=
  match Text.trimStart s with
  | '-' :: rest => (number? rest.length rest).map fun (n, rest) => (-n, rest)
  | '+' :: rest => (number? rest.length rest).map fun (n, rest) => (n, rest)
  | rest => (number? 4 rest).map fun (n, rest) => (n, rest)

/-- The date at the start of a text. -/
def date? (s : List Char) : Option (Date × List Char) := do
  let (year, s) ← year? s
  let (month, s) ← part? (← after? '-' s)
  let (day, s) ← part? (← after? '-' s)
  return (← Date.of? year month day, s)

/-- The fraction at the start of a text, in billionths. Further digits do not count. -/
def fraction? : List Char → Option (Nat × List Char)
  | '.' :: s => do
    let (n, rest) ← number? 9 s
    return (n * Nat.pow 10 (9 - (s.length - rest.length)), rest.dropWhile Decimal.isDigit)
  | s => some (0, s)

/-- The time of day at the start of a text. -/
def clock? (s : List Char) : Option (Clock × List Char) := do
  let (hour, s) ← part? s
  let (minute, s) ← part? (← after? ':' s)
  let (second, s) ← part? (← after? ':' s)
  let (nano, s) ← fraction? s
  return (← Clock.of? hour minute second nano, s)

/-- Two digits at the start of a text. -/
def twoDigits? (s : List Char) : Option (Nat × List Char) := do
  let (n, rest) ← number? 2 s
  if s.length = rest.length + 2 then some (n, rest) else none

/-- The size of an offset in minutes, less than a day: two digits for the hours, and two for the
minutes after colons and blanks. -/
def offsetSize? (s : List Char) : Option (Nat × List Char) := do
  let (hours, s) ← twoDigits? s
  let (minutes, s) ← twoDigits? (s.dropWhile fun c => c == ':' || Text.isBlank c)
  if hours < 24 ∧ minutes < 60 then some (60 * hours + minutes, s) else none

/-- The offset at the start of a text, in minutes. -/
def offset? (s : List Char) : Option (Int × List Char) :=
  match s with
  | 'Z' :: rest | 'z' :: rest => some (0, rest)
  | '+' :: rest => (offsetSize? rest).map fun (n, rest) => (n, rest)
  | '-' :: rest | '−' :: rest => (offsetSize? rest).map fun (n, rest) => (-n, rest)
  | u :: t :: c :: rest =>
    if [u, t, c].map Char.toUpper = ['U', 'T', 'C'] then some (0, rest) else none
  | _ => none

/-- Reads a timestamp. -/
def ofText? (s : String) : Option Timestamp := do
  let (date, s) ← date? s.toList
  let (separator, s) ← match s with
    | c :: s => some (c, s)
    | [] => none
  if "Tt ".toList.contains separator then some () else none
  let (clock, s) ← clock? s
  let (ahead, s) ← offset? (Text.trimStart s)
  if !(Text.trimStart s).isEmpty then none
  ofLocal? date clock ahead

end LiveForm.Timestamp
