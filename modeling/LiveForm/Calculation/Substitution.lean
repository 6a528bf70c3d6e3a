import LiveForm.Json.Coercion
import LiveForm.Text.Word

/-!
# Putting values into an expression

Field ids are replaced by the numbers of their fields, whole words only, longer ids first. A
negative number is put in parentheses. Whatever is left must be arithmetic: an expression with any
other character is not evaluated.
-/

namespace LiveForm.Calculation

open Text (isBoundary)

/-- Whether an id can stand in an expression at all. -/
def isUsableId (id : String) : Bool :=
  match id.toList with
  | [] => false
  | c :: _ => !Decimal.isDigit c

/-- Whether an id is replaced before another: longer ids first, in bytes, then in text order. -/
def goesBefore (a b : String) : Bool :=
  b.utf8ByteSize < a.utf8ByteSize || (a.utf8ByteSize == b.utf8ByteSize && decide (a < b))

/-- Puts an id into its place among ids in the order of replacement, unless it is there. -/
def insertId (id : String) : List String → List String
  | [] => [id]
  | other :: r =>
    if id = other then other :: r
    else if goesBefore id other then id :: other :: r
    else other :: insertId id r

/-- The ids that can stand in an expression, each once, in the order of replacement. -/
def replacementOrder (ids : List String) : List String := (ids.filter isUsableId).foldr insertId []

/-- Whether a word stands as a whole word at the start of a text, given the character before it: a
word boundary is at both its ends. -/
def standsAt (word : List Char) (before : Option Char) (s : List Char) : Bool :=
  word.isPrefixOf s && isBoundary before s.head? &&
    isBoundary (word.getLast? <|> before) (s.drop word.length).head?

/-- Replaces every whole-word occurrence of a word, scanning from the left. The character before the
text is given, and so many characters at its start still belong to the last occurrence. -/
def replaceFrom (word replacement : List Char) : Option Char → Nat → List Char → List Char
  | _, _, [] => []
  | _, skip + 1, c :: r => replaceFrom word replacement (some c) skip r
  | before, 0, c :: r =>
    if standsAt word before (c :: r) then
      replacement ++ replaceFrom word replacement (some c) (word.length - 1) r
    else c :: replaceFrom word replacement (some c) 0 r

/-- Replaces every whole-word occurrence of a word. -/
def replaceWord (word replacement : List Char) (s : List Char) : List Char :=
  replaceFrom word replacement none 0 s

/-- Whether a word occurs as a whole word. The empty word occurs where any word starts or ends. -/
def occursFrom (word : List Char) : Option Char → List Char → Bool
  | before, [] => standsAt word before []
  | before, c :: r => standsAt word before (c :: r) || occursFrom word (some c) r

/-- Whether an id occurs in an expression as a whole word. -/
def mentions (expression id : String) : Bool := occursFrom id.toList none expression.toList

/-- The text that stands for a number in an expression. -/
def insertedText (x : Float) : String :=
  if x < 0.0 then "(" ++ Json.numberText x ++ ")" else Json.numberText x

/-- The number that an id stands for. -/
def numberOf (data : FormData) (id : String) : Float := Json.asNumber (data.get? id)

/-- Replaces one id by its number. -/
def substituteId (data : FormData) (s : List Char) (id : String) : List Char :=
  replaceWord id.toList (insertedText (numberOf data id)).toList s

/-- An expression with the numbers of fields in place of their ids. -/
def substitute (expression : String) (ids : List String) (data : FormData) : String :=
  String.ofList ((replacementOrder ids).foldl (substituteId data) expression.toList)

/-- Whether a character may stand in an arithmetic text. -/
def isSafeChar (c : Char) : Bool :=
  Decimal.isDigit c || Text.isBlank c || "+-*/().".toList.contains c

/-- Whether a text is not empty and has only characters of arithmetic. -/
def isSafe (s : String) : Bool := !s.isEmpty && s.toList.all isSafeChar

/-- Whether a character can start a name. -/
def startsName (c : Char) : Bool := c.isAlpha || c == '_' || c == '$'

/-- Whether a character can go on in a name. -/
def continuesName (c : Char) : Bool := startsName c || Decimal.isDigit c

/-- The names in a text after a name that is still open and comes in reverse. -/
def namesFrom (pending : List Char) : List Char → List String
  | [] => close
  | c :: r =>
    if pending.isEmpty then
      if startsName c then namesFrom [c] r else namesFrom [] r
    else if continuesName c then namesFrom (c :: pending) r
    else close ++ namesFrom [] r
where
  close : List String :=
    if pending.isEmpty then [] else [String.ofList pending.reverse]

/-- The names in an expression that are left when all ids are replaced, each once, in the order of
their first occurrence. -/
def unknownNames (expression : String) (ids : List String) : List String :=
  (namesFrom [] (substitute expression ids ∅).toList).eraseDups

end LiveForm.Calculation
