import LiveForm.Json.Basic

/-!
# Building tables

A TOML document is a sequence of statements: entries with dotted keys, and headers that open a table
or a further item of a list of tables. No entry and no table is defined twice, and a table that was
opened by a header is not extended through dotted keys.
-/

namespace LiveForm.Toml

/-- How a table came into being. -/
inductive Origin where
  /-- Opened by a header of its own, or written out in braces. -/
  | header
  /-- Named on the way to a table with a header. -/
  | implied
  /-- Named by a dotted key. -/
  | dotted
  deriving DecidableEq, Repr

/-- What a key of a table holds. -/
inductive Node where
  | value (v : Json)
  | table (origin : Origin) (entries : List (String × Node))
  | tables (items : List (List (String × Node)))
  deriving Inhabited

/-- The entries of a table. -/
abbrev Entries := List (String × Node)

mutual

/-- The value of a node. -/
def Node.toJson : Node → Json
  | .value v => v
  | .table _ entries => .object (entriesToJson entries)
  | .tables items => .list (itemsToJson items)

/-- The values of the entries of a table. -/
def entriesToJson : List (String × Node) → List (String × Json)
  | [] => []
  | (k, n) :: r => (k, n.toJson) :: entriesToJson r

/-- The values of the items of a list of tables. -/
def itemsToJson : List (List (String × Node)) → List Json
  | [] => []
  | t :: r => .object (entriesToJson t) :: itemsToJson r

end

namespace Entries

/-- The node of a key. -/
def find? (es : Entries) (key : String) : Option Node := (List.find? (·.1 == key) es).map (·.2)

/-- Puts a node under a key, in place of the one that was there. -/
def put (es : Entries) (key : String) (n : Node) : Entries :=
  if es.any (·.1 == key) then es.map fun e => if e.1 == key then (key, n) else e
  else es ++ [(key, n)]

/-- Changes the table at the end of a path, going through tables and the last items of lists of
tables. Tables that are missing on the way come into being. A dotted path goes through no table that
has a header. -/
def changeAt (dotted : Bool) (change : Origin → Entries → Option Entries) :
    List String → Origin → Entries → Option Entries
  | [], origin, es => change origin es
  | key :: path, _, es =>
    match es.find? key with
    | none =>
      let origin := if dotted then Origin.dotted else .implied
      (changeAt dotted change path origin []).map fun t => es.put key (.table origin t)
    | some (.value _) => none
    | some (.table origin t) =>
      if dotted && origin == .header then none
      else (changeAt dotted change path origin t).map fun t => es.put key (.table origin t)
    | some (.tables items) =>
      match items.reverse with
      | [] => none
      | last :: before =>
        (changeAt dotted change path .header last).map fun t =>
          es.put key (.tables (before.reverse ++ [t]))

/-- Adds an entry with a dotted key. A dotted key adds only to tables made by dotted keys, and a
plain key only to the table at hand. -/
def addValue (path : List String) (v : Node) (es : Entries) : Option Entries :=
  let add (origin : Origin) (t : Entries) : Option Entries :=
    match path.getLast? with
    | none => none
    | some key =>
      if (origin == .dotted) == path.dropLast.isEmpty then none
      else if (t.find? key).isSome then none
      else some (t.put key v)
  changeAt true add path.dropLast .header es

/-- Opens the table of a header: its entries so far, which only a table named on the way to another
has. -/
def opened (key : String) (es : Entries) : Option Entries :=
  match es.find? key with
  | none => some []
  | some (.table .implied t) => some t
  | _ => none

/-- Puts a finished table under the last key of its header. -/
def closeTable (path : List String) (body : Entries → Option Entries) (root : Entries) :
    Option Entries :=
  let close (_ : Origin) (parent : Entries) : Option Entries :=
    match path.getLast? with
    | none => none
    | some key =>
      ((parent.opened key).bind body).map fun t => parent.put key (.table .header t)
  changeAt false close path.dropLast .header root

/-- Adds a finished table to the list of tables under the last key of its header. -/
def closeItem (path : List String) (body : Entries → Option Entries) (root : Entries) :
    Option Entries :=
  let close (_ : Origin) (parent : Entries) : Option Entries :=
    match path.getLast? with
    | none => none
    | some key =>
      match parent.find? key with
      | none => (body []).map fun t => parent.put key (.tables [t])
      | some (.tables items) => (body []).map fun t => parent.put key (.tables (items ++ [t]))
      | _ => none
  changeAt false close path.dropLast .header root

end Entries

/-- A statement of a document. -/
inductive Statement where
  /-- An entry with a dotted key. -/
  | entry (path : List String) (v : Node)
  /-- A header that opens a table. -/
  | table (path : List String)
  /-- A header that opens a further item of a list of tables. -/
  | item (path : List String)

/-- Whether a statement is a header. -/
def Statement.isHeader : Statement → Bool
  | .entry .. => false
  | _ => true

/-- Adds entries to a table until the first header. -/
def addEntries : List Statement → Entries → Option Entries
  | .entry path v :: r, es => (es.addValue path v).bind (addEntries r)
  | _, es => some es

/-- Adds the sections of a document, each a header with the entries after it. The fuel bounds the
number of statements. -/
def addSections : Nat → List Statement → Entries → Option Entries
  | _, [], root => some root
  | 0, _, _ => none
  | fuel + 1, s :: r, root =>
    let rest := r.dropWhile fun s => !s.isHeader
    match s with
    | .table path => (root.closeTable path (addEntries r)).bind (addSections fuel rest)
    | .item path => (root.closeItem path (addEntries r)).bind (addSections fuel rest)
    | .entry .. => addSections fuel rest root

/-- The table of a whole document. -/
def ofStatements (statements : List Statement) : Option Entries :=
  (addEntries statements []).bind
    (addSections statements.length (statements.dropWhile fun s => !s.isHeader))

end LiveForm.Toml
