import LiveForm.Pattern.CharSet
import LiveForm.Text.Property
import LiveForm.Text.Script

/-!
# Properties by name

The sets of characters that a pattern names by a property. Case, blanks, hyphens, underscores and a
leading `is` do not count in a name.
-/

namespace LiveForm.Pattern

/-- A name without what does not count in it. -/
def plainName (s : String) : String :=
  let cs := (s.toList.map Char.toLower)
  let (is, cs) := match cs with
    | 'i' :: 's' :: rest => (true, rest)
    | cs => (false, cs)
  let cs := cs.filter fun c => c.toNat < 0x80 && c != ' ' && c != '_' && c != '-'
  if is && cs == ['c'] then "isc" else String.ofList cs

/-- The spans that a table gives for a name. -/
def named? (table : List (List String × List Text.Span)) (name : String) : Option CharSet :=
  (table.find? fun row => row.1.contains name).map fun row => .spans row.2

/-- All code points. -/
def anything : CharSet := .spans [{ first := 0, last := 0x10FFFF }]

/-- The code points that have no category, which are unassigned. -/
def unassigned : CharSet := .complement (.spans (Text.Category.all.flatMap (·.2)))

/-- The set of a general category. -/
def category? (name : String) : Option CharSet :=
  match name with
  | "any" => some anything
  | "ascii" => some (.range '\x00' '\x7f')
  | "assigned" => some (.complement unassigned)
  | "cn" | "unassigned" => some unassigned
  | "c" | "other" =>
    some (.union unassigned
      (.spans (Text.Category.control ++ Text.Category.format ++ Text.Category.privateUse)))
  | name => named? Text.Category.all name <|> named? Text.Category.groups name

/-- What may start an identifier. -/
def identifierStart : CharSet :=
  .diff (.spans (Text.Property.letters ++ Text.spans "1885-1886 2118 212E 309B-309C"))
    (.spans (Text.spans "2E2F"))

/-- What may stand in an identifier. -/
def identifierPart : CharSet :=
  .union identifierStart
    (.spans
      (Text.Category.nonspacingMark ++ Text.Category.spacingMark ++ Text.Category.decimalNumber ++
        Text.Category.connectorPunctuation ++
        Text.spans "B7 387 1369-1371 19DA 200C-200D 30FB FF65"))

/-- What stands in an identifier but not in every normal form of one. -/
def unstableInIdentifiers : CharSet :=
  .spans (Text.spans "37A 309B-309C FC5E-FC63 FDFA-FDFB FE70-FE7E-2")

/-- The set of a property of identifiers. -/
def identifierProperty? : String → Option CharSet
  | "ids" | "idstart" => some identifierStart
  | "idc" | "idcontinue" => some identifierPart
  | "xids" | "xidstart" =>
    some (.diff (.diff identifierStart unstableInIdentifiers)
      (.spans (Text.spans "E33 EB3 FF9E-FF9F")))
  | "xidc" | "xidcontinue" => some (.diff identifierPart unstableInIdentifiers)
  | _ => none

/-- The set of a property. Three names that could be properties are categories. -/
def property? (name : String) : Option CharSet :=
  let name := plainName name
  (if ["cf", "sc", "lc"].contains name then none else named? Text.Property.all name) <|>
    identifierProperty? name <|> category? name <|> named? Text.scripts name

/-- The set of a property with a value. -/
def propertyValue? (name value : String) : Option CharSet :=
  match plainName name with
  | "gc" | "generalcategory" => category? (plainName value)
  | "sc" | "script" => named? Text.scripts (plainName value)
  | _ => none

end LiveForm.Pattern
