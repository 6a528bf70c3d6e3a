import LiveForm.Json.Basic

/-!
# Reading typed values

A record is written as an object, or as a list of its fields in order. An object may have further
keys, which are ignored, but may give no field twice, under its name or another of its names. A
list may leave out fields at its end that have a default. A member of an enumeration is written as
its name, or as an object with the name as its only key.
-/

namespace LiveForm.Json

/-- What a text format allows in records and enumerations. -/
structure Format where
  /-- Whether a value may stand under the key that names a member of an enumeration. -/
  isUnit : Json → Bool
  /-- Whether a list may have more items than its record has fields. -/
  allowsSurplus : Bool

namespace Format

/-- JSON: the value under a name is null, and there are no surplus items. -/
def json : Format := ⟨fun v => v matches .null, false⟩

/-- TOML, which has no null: the value under a name is an empty list or table, and surplus items are
ignored. -/
def toml : Format := ⟨fun v => v matches .list [] | .object [], true⟩

end Format

/-- A text. -/
def text? : Json → Option String
  | .text s => some s
  | _ => none

/-- A truth value. -/
def bool? : Json → Option Bool
  | .bool b => some b
  | _ => none

/-- An integer between two bounds. -/
def intWithin? (low high : Int) : Json → Option Int
  | .int n => if low ≤ n ∧ n ≤ high then some n else none
  | _ => none

/-- A natural number below a bound. -/
def natBelow? (bound : Nat) : Json → Option Nat
  | .int n => if 0 ≤ n ∧ n < bound then some n.toNat else none
  | _ => none

/-- Any value, in canonical form. -/
def free? (v : Json) : Option Json := some v.canonical

/-- Null as nothing, and anything else as the reader reads it. -/
def optional? {α : Type} (read : Json → Option α) : Json → Option (Option α)
  | .null => some none
  | v => (read v).map some

/-- A list of values. -/
def listOf? {α : Type} (read : Json → Option α) : Json → Option (List α)
  | .list items => items.mapM read
  | _ => none

/-- A map of values. -/
def mapOf? {α : Type} (read : Json → Option α) : Json → Option (SortedMap α)
  | .object entries =>
    (entries.mapM fun e => (read e.2).map fun a => (e.1, a)).map SortedMap.ofList
  | _ => none

/-- The name of a member of an enumeration. -/
def member? (format : Format) : Json → Option String
  | .text s => some s
  | .object [(name, v)] => if format.isUnit v then some name else none
  | _ => none

/-- Whether a value can be a record with so many fields. -/
def isRecord (format : Format) (size : Nat) : Json → Bool
  | .object _ => true
  | .list items => format.allowsSurplus || decide (items.length ≤ size)
  | _ => false

/-- One field of a record: under one of its names in an object, or at its place in a list. A field
that is not there has the value of `absent`, if that has one. -/
def part? {α : Type} (names : List String) (place : Nat) (absent : Option α)
    (read : Json → Option α) : Json → Option α
  | .object entries =>
    match entries.filter (fun e => names.contains e.1) with
    | [] => absent
    | [e] => read e.2
    | _ => none
  | .list items =>
    match items[place]? with
    | none => absent
    | some v => read v
  | _ => none

/-- A record, read field by field by a function. -/
def record? {α : Type} (format : Format) (size : Nat) (read : Json → Option α) (v : Json) :
    Option α :=
  if isRecord format size v then read v else none

/-- A value of one of several kinds, taken apart into the name of its kind and a record of the rest:
an object with the name under a key, or a list that starts with the name. -/
def tagged? (key : String) : Json → Option (String × Json)
  | .object entries =>
    match SortedMap.find? key entries with
    | some (.text kind) => some (kind, .object (entries.filter fun e => e.1 != key))
    | _ => none
  | .list (.text kind :: items) => some (kind, .list items)
  | _ => none

/-- A record without fields. -/
def unit? {α : Type} (format : Format) (a : α) : Json → Option α :=
  record? format 0 fun _ => some a

/-- The entry of an optional part, left out if there is none. -/
def entryOf {α : Type} (key : String) (f : α → Json) : Option α → List (String × Json)
  | none => []
  | some a => [(key, f a)]

/-- The least and the greatest 64-bit integer. -/
def int64Range : Int × Int := (-9223372036854775808, 9223372036854775807)

end LiveForm.Json
