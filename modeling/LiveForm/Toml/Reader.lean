import LiveForm.Toml.Scalar
import LiveForm.Toml.Table
import LiveForm.Toml.Text

/-!
# Reading TOML

Reads a TOML 1.0 document into a value. Lists and tables in braces nest fewer than 80 levels, and a
dotted key has fewer than 80 parts.
-/

namespace LiveForm.Toml

/-- The bound on nesting and on the parts of a key. -/
def maxLevels : Nat := 80

/-- Whether a character may stand in a bare key. -/
def isBare (c : Char) : Bool := c.isAlphanum || c == '_' || c == '-'

/-- One part of a key. -/
def keyPartOf (s : List Char) : Option (String × List Char) :=
  match s with
  | '"' :: r => basicString r.length [] r
  | '\'' :: r => literalString [] r
  | s =>
    let part := s.takeWhile isBare
    if part.isEmpty then none else some (String.ofList part, s.dropWhile isBare)

/-- The parts of a dotted key, with blanks around them. The fuel bounds their number. -/
def keyPartsOf : Nat → List Char → Option (List String × List Char)
  | 0, _ => none
  | fuel + 1, s =>
    match keyPartOf (skipSpace s) with
    | none => none
    | some (part, r) =>
      match skipSpace r with
      | '.' :: r => (keyPartsOf fuel r).map fun (parts, r) => (part :: parts, r)
      | r => some ([part], r)

/-- A dotted key. -/
def keyOf (s : List Char) : Option (List String × List Char) := keyPartsOf (maxLevels - 1) s

/-- Reads a value off the front of a text. -/
abbrev ValueReader := List Char → Option (Json × List Char)

/-- The items of a list up to its closing bracket. The fuel bounds their number. -/
def listItems (item : ValueReader) : Nat → List Char → Option (List Json × List Char)
  | 0, _ => none
  | fuel + 1, s =>
    match skipLayout false s with
    | none => none
    | some (']' :: rest) => some ([], rest)
    | some s =>
      match item s with
      | none => none
      | some (v, r) =>
        match skipLayout false r with
        | some (',' :: r) => (listItems item fuel r).map fun (vs, rest) => (v :: vs, rest)
        | some (']' :: rest) => some ([v], rest)
        | _ => none

/-- The entries of a table in braces up to its closing brace, after at least one entry is due. The
fuel bounds their number. -/
def braceEntries (item : ValueReader) :
    Nat → List Char → Option (List (List String × Json) × List Char)
  | 0, _ => none
  | fuel + 1, s =>
    match keyOf s with
    | some (path, '=' :: r) =>
      match item (skipSpace r) with
      | none => none
      | some (v, r) =>
        match skipSpace r with
        | ',' :: r => (braceEntries item fuel r).map fun (es, rest) => ((path, v) :: es, rest)
        | '}' :: rest => some ([(path, v)], rest)
        | _ => none
    | _ => none

/-- The table of the entries between braces. -/
def ofBraces (entries : List (List String × Json)) : Option Json :=
  (entries.foldlM (fun es e => Entries.addValue e.1 (.value e.2) es) []).map fun es =>
    .object (entriesToJson es)

/-- The value at the start of a text, in which lists and tables nest at most so many levels. -/
def valueOf : Nat → ValueReader
  | levels, s =>
    match s with
    | '"' :: _ | '\'' :: _ => (stringOf s).map fun (t, rest) => (.text t, rest)
    | '[' :: r =>
      match levels with
      | 0 => none
      | levels + 1 =>
        (listItems (valueOf levels) (r.length + 1) r).map fun (vs, rest) => (.list vs, rest)
    | '{' :: r =>
      match levels with
      | 0 => none
      | levels + 1 =>
        match skipSpace r with
        | '}' :: rest => some (.object [], rest)
        | s =>
          match braceEntries (valueOf levels) s.length s with
          | none => none
          | some (es, rest) => (ofBraces es).map (·, rest)
    | s => scalarOf s
termination_by structural levels => levels

/-- The end of a line: blanks, a comment, and a line break or the end of the text. -/
def endOfLine (s : List Char) : Option (List Char) :=
  match skipComment (skipSpace s) with
  | [] => some []
  | r => afterNewline? r

/-- The statement at the start of a text, up to the end of its line. -/
def statementOf (s : List Char) : Option (Statement × List Char) :=
  match s with
  | '[' :: '[' :: r =>
    match keyOf r with
    | some (path, ']' :: ']' :: r) => (endOfLine r).map (.item path, ·)
    | _ => none
  | '[' :: r =>
    match keyOf r with
    | some (path, ']' :: r) => (endOfLine r).map (.table path, ·)
    | _ => none
  | s =>
    match keyOf s with
    | some (path, '=' :: r) =>
      match valueOf (maxLevels - 1) (skipSpace r) with
      | some (v, r) => (endOfLine r).map (.entry path (.value v), ·)
      | none => none
    | _ => none

/-- The statements of a text. The fuel bounds the number of lines. -/
def statementsOf : Nat → List Char → Option (List Statement)
  | 0, _ => none
  | fuel + 1, s =>
    match skipSpace s with
    | [] => some []
    | '#' :: r => (endOfLine ('#' :: r)).bind (statementsOf fuel)
    | s =>
      match afterNewline? s with
      | some r => statementsOf fuel r
      | none =>
        match statementOf s with
        | none => none
        | some (statement, r) => (statementsOf fuel r).map (statement :: ·)

/-- The text without a byte order mark at its start. -/
def skipMark : List Char → List Char
  | '\ufeff' :: r => r
  | s => s

/-- Reads a document. -/
def read? (s : String) : Option Json := do
  let statements ← statementsOf (s.length + 1) (skipMark s.toList)
  let root ← ofStatements statements
  return .object (entriesToJson root)

end LiveForm.Toml
