import LiveForm.Decimal.Layout
import LiveForm.Json.Basic

/-!
# Writing JSON text

The compact form has no spaces. The indented form puts each item and entry on a line of its own,
two spaces deeper than its list or object.
-/

namespace LiveForm.Json

/-- The digit characters of hexadecimal text. -/
def hexDigit (n : Nat) : Char := Char.ofNat (if n < 10 then '0'.toNat + n else 'a'.toNat + (n - 10))

/-- A character inside quotes: quote, backslash and control characters are escaped. -/
def escape (c : Char) : List Char :=
  match c with
  | '"' => ['\\', '"']
  | '\\' => ['\\', '\\']
  | '\x08' => ['\\', 'b']
  | '\x0c' => ['\\', 'f']
  | '\n' => ['\\', 'n']
  | '\r' => ['\\', 'r']
  | '\t' => ['\\', 't']
  | c =>
    if c.toNat < 0x20 then
      ['\\', 'u', '0', '0', hexDigit (c.toNat / 16), hexDigit (c.toNat % 16)]
    else [c]

/-- A text in quotes. -/
def quote (s : String) : List Char := '"' :: s.toList.flatMap escape ++ ['"']

/-- A number literal. A float that is not finite has none and becomes null. -/
def floatText (x : Float) : String := if x.isFinite then Decimal.dataLayout.render x else "null"

/-- Texts with a separator between each two. -/
def joinWith (separator : List Char) : List (List Char) → List Char
  | [] => []
  | [t] => t
  | t :: r => t ++ separator ++ joinWith separator r

/-- The text of a value without parts. -/
def scalarText : Json → List Char
  | .bool true => ['t', 'r', 'u', 'e']
  | .bool false => ['f', 'a', 'l', 's', 'e']
  | .int n => (toString n).toList
  | .float x => (floatText x).toList
  | .text s => quote s
  | _ => ['n', 'u', 'l', 'l']

mutual

/-- The compact text of a value. -/
def compactChars : Json → List Char
  | .list items => '[' :: joinWith [','] (compactItems items) ++ [']']
  | .object entries => '{' :: joinWith [','] (compactEntries entries) ++ ['}']
  | v => scalarText v

/-- The compact texts of some values. -/
def compactItems : List Json → List (List Char)
  | [] => []
  | v :: r => compactChars v :: compactItems r

/-- The compact texts of some entries. -/
def compactEntries : List (String × Json) → List (List Char)
  | [] => []
  | (k, v) :: r => (quote k ++ ':' :: compactChars v) :: compactEntries r

end

/-- The compact text of a value. -/
def compact (v : Json) : String := String.ofList v.compactChars

/-- A line break and an indentation of so many levels. -/
def newline (level : Nat) : List Char := '\n' :: List.replicate (2 * level) ' '

/-- Parts between brackets, each on a line of its own one level deeper. -/
def block (opening closing : Char) (level : Nat) : List (List Char) → List Char
  | [] => [opening, closing]
  | parts =>
    opening :: newline (level + 1) ++ joinWith (',' :: newline (level + 1)) parts ++
      newline level ++ [closing]

mutual

/-- The indented text of a value that stands at a level. -/
def indentedChars (level : Nat) : Json → List Char
  | .list items => block '[' ']' level (indentedItems (level + 1) items)
  | .object entries => block '{' '}' level (indentedEntries (level + 1) entries)
  | v => scalarText v

/-- The indented texts of some values. -/
def indentedItems (level : Nat) : List Json → List (List Char)
  | [] => []
  | v :: r => indentedChars level v :: indentedItems level r

/-- The indented texts of some entries. -/
def indentedEntries (level : Nat) : List (String × Json) → List (List Char)
  | [] => []
  | (k, v) :: r => (quote k ++ ':' :: ' ' :: indentedChars level v) :: indentedEntries level r

end

/-- The indented text of a value. -/
def indented (v : Json) : String := String.ofList (v.indentedChars 0)

end LiveForm.Json
