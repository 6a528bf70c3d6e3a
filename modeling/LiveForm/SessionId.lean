import LiveForm.Json.Decoding
import LiveForm.Json.Printer
import LiveForm.Json.Reader

/-!
# Session names

A session is named by 128 bits, written as 32 hexadecimal digits in five groups.
-/

namespace LiveForm

/-- The name of a session. -/
structure SessionId where
  bits : BitVec 128
  deriving DecidableEq, Repr

namespace SessionId

/-- The sizes of the groups of digits. -/
def groupSizes : List Nat := [8, 4, 4, 4, 12]

/-- The hexadecimal digits of a number, at least so many. -/
def digits : (count : Nat) → Nat → List Char
  | 0, _ => []
  | count + 1, n => Json.hexDigit (n / Nat.pow 16 count % 16) :: digits count n

/-- Digits in groups of some sizes, with hyphens between them. -/
def grouped : List Nat → List Char → List Char
  | [], s => s
  | [_], s => s
  | n :: sizes, s => s.take n ++ '-' :: grouped sizes (s.drop n)

/-- The text of a name. -/
def text (id : SessionId) : String :=
  String.ofList (grouped groupSizes (digits 32 id.bits.toNat))

/-- Groups of some sizes with hyphens between them, put together. -/
def ungrouped? : List Nat → List Char → Option (List Char)
  | [], s => if s.isEmpty then some [] else none
  | [n], s => if s.length = n then some s else none
  | n :: sizes, s =>
    match s.drop n with
    | '-' :: rest => (ungrouped? sizes rest).map (s.take n ++ ·)
    | _ => none

/-- A text without the braces around it or the scheme in front of it. -/
def unwrapped (s : List Char) : List Char :=
  match s with
  | '{' :: rest => if rest.getLast? == some '}' then rest.dropLast else s
  | s => (Json.afterWord? "urn:uuid:".toList s).getD s

/-- The name that 32 digits spell. -/
def ofDigits? (s : List Char) : Option SessionId :=
  (Json.hexNumber? s).map fun n => ⟨BitVec.ofNat 128 n⟩

/-- Reads a name: 32 digits without anything else, or in groups, which may stand in braces or after
a scheme. -/
def ofText? (s : String) : Option SessionId :=
  if s.length = 32 then ofDigits? s.toList
  else (ungrouped? groupSizes (unwrapped s.toList)).bind ofDigits?

/-- Reads a name. -/
def ofJson? (v : Json) : Option SessionId := v.text?.bind ofText?

/-- The name made of random bits: two of its digits tell that it is. -/
def ofRandom (bits : BitVec 128) : SessionId :=
  let unmarked := bits &&& ~~~((0xF : BitVec 128) <<< 76) &&& ~~~((0x3 : BitVec 128) <<< 62)
  ⟨unmarked ||| ((0x4 : BitVec 128) <<< 76) ||| ((0x2 : BitVec 128) <<< 62)⟩

end SessionId

end LiveForm
