import LiveForm.Json.Number

/-!
# Reading JSON text

A text is first read into a draft, which follows the grammar and nothing else: objects keep repeated
keys, and a number or a string that denotes nothing (a number beyond the doubles, half of a
surrogate pair) is kept as it is. A draft denotes a value if all of its parts do and it nests at
most 127 levels.
-/

namespace LiveForm

/-- The syntax of a JSON text. A string that denotes no text is `none`. -/
inductive Draft where
  | null
  | bool (b : Bool)
  | number (literal : Json.Literal)
  | text (s : Option String)
  | list (items : List Draft)
  | object (entries : List (Option String × Draft))
  deriving Inhabited, Repr

namespace Json

/-- Whether the character may stand between tokens. -/
def isSpace (c : Char) : Bool := c == ' ' || c == '\n' || c == '\t' || c == '\r'

/-- The text without the spaces at its start. -/
def skipSpace (s : List Char) : List Char := s.dropWhile isSpace

/-- The value of a hexadecimal digit. -/
def hexValue? (c : Char) : Option Nat :=
  if '0' ≤ c ∧ c ≤ '9' then some (c.toNat - '0'.toNat)
  else if 'a' ≤ c ∧ c ≤ 'f' then some (c.toNat - 'a'.toNat + 10)
  else if 'A' ≤ c ∧ c ≤ 'F' then some (c.toNat - 'A'.toNat + 10)
  else none

/-- The number that hexadecimal digits spell. -/
def hexNumber? (digits : List Char) : Option Nat :=
  digits.foldlM (fun n c => (hexValue? c).map (16 * n + ·)) 0

/-- The code unit of an escape with one letter. -/
def escaped? : Char → Option Char
  | '"' => some '"'
  | '\\' => some '\\'
  | '/' => some '/'
  | 'b' => some '\x08'
  | 'f' => some '\x0c'
  | 'n' => some '\n'
  | 'r' => some '\r'
  | 't' => some '\t'
  | _ => none

/-- Whether a code unit is the first half of a surrogate pair. -/
def isHighHalf (n : Nat) : Bool := 0xD800 ≤ n && n ≤ 0xDBFF

/-- Whether a code unit is the second half of a surrogate pair. -/
def isLowHalf (n : Nat) : Bool := 0xDC00 ≤ n && n ≤ 0xDFFF

/-- The characters that an escaped code unit adds to a string, given the first half of a pair that
may stand before it. A half without its other half denotes nothing. -/
def joinHalves (high : Option Nat) (unit : Nat) : Option (Option Nat × List Char) :=
  match high with
  | some h =>
    if isLowHalf unit then
      some (none, [Char.ofNat (0x10000 + (h - 0xD800) * 0x400 + (unit - 0xDC00))])
    else none
  | none =>
    if isHighHalf unit then some (some unit, [])
    else if isLowHalf unit then none
    else some (none, [Char.ofNat unit])

/-- What has been read of a string: its characters in reverse and the half of a pair that waits for
the other; nothing if the string denotes no text. -/
abbrev Partial := Option (Option Nat × List Char)

/-- Adds a character to what has been read. -/
def addChar (p : Partial) (c : Char) : Partial :=
  match p with
  | some (none, done) => some (none, c :: done)
  | _ => none

/-- Adds an escaped code unit to what has been read. -/
def addUnit (p : Partial) (unit : Nat) : Partial :=
  match p with
  | none => none
  | some (high, done) => (joinHalves high unit).map fun (high, cs) => (high, cs ++ done)

/-- The text that has been read. -/
def finish (p : Partial) : Option String :=
  match p with
  | some (none, done) => some (String.ofList done.reverse)
  | _ => none

/-- The rest of a string after its opening quote, read up to its closing quote. -/
def stringBody (p : Partial) : List Char → Option (Option String × List Char)
  | '"' :: rest => some (finish p, rest)
  | '\\' :: 'u' :: a :: b :: c :: d :: rest =>
    match hexNumber? [a, b, c, d] with
    | none => none
    | some unit => stringBody (addUnit p unit) rest
  | '\\' :: c :: rest =>
    match escaped? c with
    | some ch => stringBody (addChar p ch) rest
    | none => none
  | c :: rest => if c.toNat < 0x20 then none else stringBody (addChar p c) rest
  | [] => none

/-- A string after its opening quote. -/
def stringOf (s : List Char) : Option (Option String × List Char) := stringBody (some (none, [])) s

/-- What follows a word, if the text starts with it. -/
def afterWord? : List Char → List Char → Option (List Char)
  | [], s => some s
  | w :: ws, c :: s => if w = c then afterWord? ws s else none
  | _ :: _, [] => none

/-- Items up to a closing bracket, after at least one item is due. The fuel bounds their number. -/
def itemsOf (item : List Char → Option (Draft × List Char)) :
    Nat → List Char → Option (List Draft × List Char)
  | 0, _ => none
  | fuel + 1, s =>
    match item (skipSpace s) with
    | none => none
    | some (v, rest) =>
      match skipSpace rest with
      | ',' :: rest => (itemsOf item fuel rest).map fun (vs, rest) => (v :: vs, rest)
      | ']' :: rest => some ([v], rest)
      | _ => none

/-- Entries up to a closing brace, after at least one entry is due. The fuel bounds their number. -/
def entriesOf (item : List Char → Option (Draft × List Char)) :
    Nat → List Char → Option (List (Option String × Draft) × List Char)
  | 0, _ => none
  | fuel + 1, s =>
    match skipSpace s with
    | '"' :: s =>
      match stringOf s with
      | none => none
      | some (key, rest) =>
        match skipSpace rest with
        | ':' :: rest =>
          match item (skipSpace rest) with
          | none => none
          | some (v, rest) =>
            match skipSpace rest with
            | ',' :: rest =>
              (entriesOf item fuel rest).map fun (es, rest) => ((key, v) :: es, rest)
            | '}' :: rest => some ([(key, v)], rest)
            | _ => none
        | _ => none
    | _ => none

/-- The draft at the start of a text, in which lists and objects nest at most so many levels. -/
def draftOf : Nat → List Char → Option (Draft × List Char)
  | levels, s =>
    match s with
    | '"' :: s => (stringOf s).map fun (t, rest) => (.text t, rest)
    | 't' :: _ => (afterWord? "true".toList s).map (.bool true, ·)
    | 'f' :: _ => (afterWord? "false".toList s).map (.bool false, ·)
    | 'n' :: _ => (afterWord? "null".toList s).map (.null, ·)
    | '[' :: s =>
      match levels with
      | 0 => none
      | levels + 1 =>
        match skipSpace s with
        | ']' :: rest => some (.list [], rest)
        | s => (itemsOf (draftOf levels) s.length s).map fun (vs, rest) => (.list vs, rest)
    | '{' :: s =>
      match levels with
      | 0 => none
      | levels + 1 =>
        match skipSpace s with
        | '}' :: rest => some (.object [], rest)
        | s => (entriesOf (draftOf levels) s.length s).map fun (es, rest) => (.object es, rest)
    | s => (literalOf s).map fun (literal, rest) => (.number literal, rest)
termination_by structural levels => levels

/-- How many levels lists and objects may nest. -/
def maxLevels : Nat := 127

end Json

namespace Draft

/-- Reads a text that holds one value and nothing else, however deep it nests. -/
def read? (s : String) : Option Draft :=
  match Json.draftOf s.length (Json.skipSpace s.toList) with
  | some (d, rest) => if (Json.skipSpace rest).isEmpty then some d else none
  | none => none

mutual

/-- The value that a draft denotes, if it nests at most so many levels. -/
def value? (levels : Nat) : Draft → Option Json
  | .null => some .null
  | .bool b => some (.bool b)
  | .number literal => literal.value?
  | .text s => s.map .text
  | .list items => if levels = 0 then none else (values? (levels - 1) items).map .list
  | .object entries => if levels = 0 then none else (entryValues? (levels - 1) entries).map .object

/-- The values that some drafts denote. -/
def values? (levels : Nat) : List Draft → Option (List Json)
  | [] => some []
  | d :: r => do
    let v ← value? levels d
    let vs ← values? levels r
    return v :: vs

/-- The entries that some drafts of entries denote. -/
def entryValues? (levels : Nat) : List (Option String × Draft) → Option (List (String × Json))
  | [] => some []
  | (key, d) :: r => do
    let k ← key
    let v ← value? levels d
    let es ← entryValues? levels r
    return (k, v) :: es

end

/-- Which parts of a value are looked at. The other entries of a record's object are ignored, and
need denote nothing. -/
inductive Shape where
  /-- All of it. -/
  | any
  /-- The items of a list. -/
  | list (item : Shape)
  /-- The parts of a record, each with its names. -/
  | record (parts : List (List String × Shape))

/-- The shape of the part of a record that has a name. -/
def partNamed? (parts : List (List String × Shape)) (name : String) : Option Shape :=
  (parts.find? fun p => p.1.contains name).map (·.2)

mutual

/-- The value that the parts named by a shape denote. -/
def select? (levels : Nat) (shape : Shape) : Draft → Option Json
  | .list items =>
    if levels = 0 then none
    else match shape with
      | .any => (values? (levels - 1) items).map .list
      | .list item => (selectItems? (levels - 1) item items).map .list
      | .record parts => (selectPlaces? (levels - 1) (parts.map (·.2)) items).map .list
  | .object entries =>
    if levels = 0 then none
    else match shape with
      | .record parts => (selectParts? (levels - 1) parts entries).map .object
      | _ => (entryValues? (levels - 1) entries).map .object
  | d => value? levels d

/-- The items of a list that all have one shape. -/
def selectItems? (levels : Nat) (shape : Shape) : List Draft → Option (List Json)
  | [] => some []
  | d :: r => do
    let v ← select? levels shape d
    let vs ← selectItems? levels shape r
    return v :: vs

/-- The items of a list that is a record with parts of these shapes. -/
def selectPlaces? (levels : Nat) (shapes : List Shape) : List Draft → Option (List Json)
  | [] => some []
  | d :: r => do
    let v ← select? levels (shapes.headD .any) d
    let vs ← selectPlaces? levels shapes.tail r
    return v :: vs

/-- The entries of an object that are parts of a record. -/
def selectParts? (levels : Nat) (parts : List (List String × Shape)) :
    List (Option String × Draft) → Option (List (String × Json))
  | [] => some []
  | (key, d) :: r => do
    let k ← key
    match partNamed? parts k with
    | none => selectParts? levels parts r
    | some shape =>
      let v ← select? levels shape d
      let es ← selectParts? levels parts r
      return (k, v) :: es

end

end Draft

/-- Reads a text that holds one value and nothing else. -/
def Json.read? (s : String) : Option Json := (Draft.read? s).bind (Draft.value? Json.maxLevels)

end LiveForm
