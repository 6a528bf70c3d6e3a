import LiveForm.Decimal.Layout
import LiveForm.Json.Printer
import LiveForm.Text.Blank
import LiveForm.Decimal.Reading

/-!
# Reading values as answers

How any value is read as empty, as a number or as text. Conditions, calculations and validation all
read answers through these functions, so they agree on what an answer is.
-/

namespace LiveForm

/-- The data of a form: the value of each field that has one. -/
abbrev FormData := SortedMap Json

namespace Json

/-- The bound below which every whole double is an exact integer. -/
def exactIntegers : Float := 9007199254740992.0

/-- The whole number that a double is, if it is whole and smaller than `2 ^ 53`. -/
def wholeNumber? (x : Float) : Option Int :=
  if x.abs < exactIntegers then
    let size := x.abs.toUInt64
    if size.toFloat == x.abs then
      some (if x < 0.0 then -(size.toNat : Int) else size.toNat)
    else none
  else none

/-- The text of a number: a whole number without a point, any other with its shortest digits. -/
def numberText (x : Float) : String :=
  match wholeNumber? x with
  | some n => toString n
  | none => Decimal.plainLayout.render x

/-- The value that keeps a number: an integer if it is whole, null if it is not finite. -/
def ofNumber (x : Float) : Json :=
  match wholeNumber? x with
  | some n => .int n
  | none => if x.isFinite then .float x else .null

/-- The double nearest to a number value. -/
def toFloat? : Json → Option Float
  | .int n => some (Float.ofInt n)
  | .float x => some x
  | _ => none

/-- Whether an answer counts as not given: absent, null, an empty text or an empty list. -/
def isEmptyAnswer : Option Json → Bool
  | none | some .null => true
  | some (.text s) => s.isEmpty
  | some (.list items) => items.isEmpty
  | some _ => false

/-- The number that a value genuinely is: a number, or a text that reads as a finite one. -/
def number? (v : Json) : Option Float :=
  match v with
  | .text s => (Decimal.float? (Text.trim s.toList)).filter Float.isFinite
  | v => v.toFloat?.filter Float.isFinite

/-- An answer read as a number. True is one, and whatever is no finite number is zero. -/
def asNumber : Option Json → Float
  | some (.bool true) => 1.0
  | some v => v.number?.getD 0.0
  | none => 0.0

mutual

/-- A value read as the text a person would see. -/
def plainText : Json → String
  | .null => ""
  | .bool b => if b then "true" else "false"
  | .int n => numberText (Float.ofInt n)
  | .float x => numberText x
  | .text s => s
  | .list items => String.intercalate "," (plainTexts items)
  | .object entries => compact (.object entries)

/-- Some values read as texts. -/
def plainTexts : List Json → List String
  | [] => []
  | v :: r => plainText v :: plainTexts r

end

/-- An answer read as text; an absent one is the empty text. -/
def asText (v : Option Json) : String := (v.map plainText).getD ""

/-- Whether two values count as the same answer. Two numbers compare by size, so that an integer may
equal a float; any other two values must be the same. -/
def sameAnswer (a b : Json) : Bool :=
  match a.toFloat?, b.toFloat? with
  | some x, some y => x == y
  | _, _ => same a b

end Json

end LiveForm
