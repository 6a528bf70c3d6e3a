import LiveForm.Pattern.CharSet

/-!
# Patterns as they are written

The syntax tree of a regular expression. What it means depends on flags, which the expression itself
may change.
-/

namespace LiveForm.Pattern

/-- A character that stands for itself. -/
structure Literal where
  /-- The character. -/
  char : Char
  /-- Whether it is written as a byte, with two hexadecimal digits. -/
  isByte : Bool := false
  deriving DecidableEq, Repr

/-- A class of characters with a one-letter name. -/
inductive Shorthand where
  | digit
  | blank
  | word
  deriving DecidableEq, Repr

/-- An operation on classes in brackets. -/
inductive ClassOperation where
  | inter
  | diff
  | symmetricDiff
  deriving DecidableEq, Repr

/-- What may stand in brackets. -/
inductive ClassItem where
  | literal (l : Literal)
  | range (first last : Literal)
  /-- A class of ASCII characters with a name. -/
  | named (negated : Bool) (set : CharSet)
  | shorthand (negated : Bool) (kind : Shorthand)
  /-- A property of characters, with a value if it has several. -/
  | property (negated : Bool) (name : String) (value : Option String)
  /-- Items in brackets. -/
  | bracketed (negated : Bool) (body : ClassItem)
  | union (items : List ClassItem)
  | operation (op : ClassOperation) (left right : ClassItem)
  deriving Repr

/-- A place that a pattern can ask for. -/
inductive AnchorKind where
  | lineStart
  | lineEnd
  | textStart
  | textEnd
  | boundary
  | notBoundary
  | wordStart
  | wordEnd
  /-- No word character before. -/
  | wordStartHalf
  /-- No word character after. -/
  | wordEndHalf
  deriving DecidableEq, Repr

/-- A flag. -/
inductive Flag where
  | caseless
  | multiline
  | dotAll
  | swapGreed
  | unicode
  | crlf
  /-- Whether blanks and comments are ignored. -/
  | spaced
  deriving DecidableEq, Repr

/-- Flags that are turned on or off. -/
abbrev FlagChanges := List (Flag × Bool)

/-- A regular expression. -/
inductive Node where
  | literal (l : Literal)
  | dot
  | anchor (kind : AnchorKind)
  | chars (item : ClassItem)
  /-- A change of flags for the rest of the group. -/
  | flags (changes : FlagChanges)
  | group (changes : FlagChanges) (body : Node)
  | repeated (body : Node) (least : Nat) (most : Option Nat)
  | sequence (items : List Node)
  | choice (branches : List Node)
  deriving Repr

/-- Some parts in a row; a single part stands for itself. -/
def Node.ofItems : List Node → Node
  | [item] => item
  | items => .sequence items

/-- A choice between branches; a single branch stands for itself. -/
def Node.ofBranches : List Node → Node
  | [branch] => branch
  | branches => .choice branches

/-- Some items of a class; a single item stands for itself. -/
def ClassItem.ofItems : List ClassItem → ClassItem
  | [item] => item
  | items => .union items

mutual

/-- How deep a class nests. -/
def ClassItem.depth : ClassItem → Nat
  | .bracketed _ body => body.depth + 1
  | .union [] => 0
  | .union items => depthOfItems items + 1
  | .operation _ left right => max left.depth right.depth + 1
  | _ => 0

/-- How deep the deepest of some classes nests. -/
def depthOfItems : List ClassItem → Nat
  | [] => 0
  | item :: items => max item.depth (depthOfItems items)

end

mutual

/-- How deep an expression nests. -/
def Node.depth : Node → Nat
  | .chars item => item.depth
  | .group _ body | .repeated body _ _ => body.depth + 1
  | .sequence [] => 0
  | .sequence items => depthOfNodes items + 1
  | .choice branches => depthOfNodes branches + 1
  | _ => 0

/-- How deep the deepest of some expressions nests. -/
def depthOfNodes : List Node → Nat
  | [] => 0
  | node :: nodes => max node.depth (depthOfNodes nodes)

end

/-- How deep an expression may nest. -/
def maxDepth : Nat := 250

end LiveForm.Pattern
