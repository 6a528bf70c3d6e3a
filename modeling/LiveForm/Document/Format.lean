import LiveForm.Json.Decoding

/-!
# Formats of documents

A document is a text in one of two formats, which a file tells by its name.
-/

namespace LiveForm

/-- The format of a document's text. -/
inductive DocumentFormat where
  | json
  | toml
  deriving DecidableEq, Repr

namespace DocumentFormat

/-- The name of a format. -/
def name : DocumentFormat → String
  | .json => "json"
  | .toml => "toml"

/-- The name of a format in messages. -/
def title : DocumentFormat → String
  | .json => "JSON"
  | .toml => "TOML"

/-- What the format allows in records and enumerations. -/
def conventions : DocumentFormat → Json.Format
  | .json => .json
  | .toml => .toml

/-- The parts of a path between slashes. -/
def segments (path : List Char) : List (List Char) :=
  match path with
  | [] => [[]]
  | '/' :: r => [] :: segments r
  | c :: r =>
    match segments r with
    | [] => [[c]]
    | s :: ss => (c :: s) :: ss

/-- The name of the file that a path leads to. Empty parts and single dots at the end lead nowhere
further, and two dots are no name. -/
def fileName? (path : List Char) : Option (List Char) :=
  match (segments path).reverse.dropWhile fun s => s.isEmpty || s == ['.'] with
  | [] => none
  | s :: _ => if s == ['.', '.'] then none else some s

/-- What follows the last dot of a file name, if something stands before that dot. -/
def extension? (fileName : List Char) : Option (List Char) :=
  match fileName.reverse.dropWhile (· != '.') with
  | [] | [_] => none
  | _ => some (fileName.reverse.takeWhile (· != '.')).reverse

/-- The format of the file at a path: JSON if its name ends so, in small or capital letters, and
otherwise TOML. -/
def ofPath (path : String) : DocumentFormat :=
  match (fileName? path.toList).bind extension? with
  | some e => if e.map Char.toLower == ['j', 's', 'o', 'n'] then .json else .toml
  | none => .toml

end DocumentFormat

end LiveForm
