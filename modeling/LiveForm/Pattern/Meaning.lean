import LiveForm.Pattern.Property
import LiveForm.Pattern.Reader
import LiveForm.Pattern.Regex

/-!
# The meaning of patterns

Takes an expression to the regular expression that it stands for under the flags in force. Without
the flag `unicode` a pattern knows ASCII only, and what would match beyond it has no meaning. A
pattern that would unfold to too large an automaton has none either.
-/

namespace LiveForm.Pattern

/-- The flags in force. -/
structure Flags where
  /-- Whether letters match in either case. -/
  caseless : Bool := false
  /-- Whether line anchors match at every line. -/
  multiline : Bool := false
  /-- Whether a dot matches a line break. -/
  dotAll : Bool := false
  /-- Whether classes and anchors know all characters. -/
  unicode : Bool := true
  /-- Whether a carriage return ends a line too. -/
  crlf : Bool := false
  deriving DecidableEq, Repr

namespace Flags

/-- Turns one flag on or off. The remaining flags do not change what matches. -/
def set (f : Flags) (change : Flag × Bool) : Flags :=
  match change with
  | (.caseless, on) => { f with caseless := on }
  | (.multiline, on) => { f with multiline := on }
  | (.dotAll, on) => { f with dotAll := on }
  | (.unicode, on) => { f with unicode := on }
  | (.crlf, on) => { f with crlf := on }
  | (.swapGreed, _) | (.spaced, _) => f

/-- Makes some changes. -/
def change (f : Flags) (changes : FlagChanges) : Flags := changes.foldl set f

/-- The ASCII characters. -/
def ascii : CharSet := .range '\x00' '\x7f'

/-- The closure of a set under change of case, if case does not count. -/
def fold (f : Flags) (s : CharSet) : CharSet :=
  if f.caseless then
    if f.unicode then .folded s else .inter (.folded s) ascii
  else s

/-- The complement of a set, if it is negated. Without `unicode` there is none. -/
def negate? (f : Flags) (negated : Bool) (s : CharSet) : Option CharSet :=
  if negated then if f.unicode then some (.complement s) else none else some s

end Flags

/-- The spans of a shorthand, in ASCII or in general. -/
def Shorthand.spans (kind : Shorthand) (unicode : Bool) : List Text.Span :=
  match kind, unicode with
  | .digit, true => Text.Category.decimalNumber
  | .digit, false => Text.spans "30-39"
  | .blank, true => Text.spans "9-D 20 85 A0 1680 2000-200A 2028-2029 202F 205F 3000"
  | .blank, false => Text.spans "9-D 20"
  | .word, true => Text.wordSpans
  | .word, false => Text.spans "30-39 41-5A 5F 61-7A"

/-- A character that stands for itself in a class. -/
def Literal.inClass? (f : Flags) (l : Literal) : Option Char :=
  if f.unicode || l.char.toNat < 0x80 then some l.char else none

/-- Applies an operation on sets. -/
def ClassOperation.apply (op : ClassOperation) (a b : CharSet) : CharSet :=
  match op with
  | .inter => .inter a b
  | .diff => .diff a b
  | .symmetricDiff => a.symmetricDiff b

mutual

/-- The set that an item of a class stands for. -/
def ClassItem.set? (f : Flags) : ClassItem → Option CharSet
  | .literal l => (l.inClass? f).map .single
  | .range first last => do return .range (← first.inClass? f) (← last.inClass? f)
  | .named negated set => f.negate? negated (f.fold set)
  | .shorthand negated kind => f.negate? negated (.spans (kind.spans f.unicode))
  | .property negated name value => do
    if !f.unicode then none
    let set ← match value with
      | none => property? name
      | some value => propertyValue? name value
    f.negate? negated (f.fold set)
  | .bracketed negated body => do f.negate? negated (f.fold (← body.set? f))
  | .union items => unionOf? f items
  | .operation op left right => do
    return op.apply (f.fold (← left.set? f)) (f.fold (← right.set? f))

/-- The union of the sets of some items. -/
def unionOf? (f : Flags) : List ClassItem → Option CharSet
  | [] => some .empty
  | item :: items => do return .union (← item.set? f) (← unionOf? f items)

end

/-- What a dot matches. -/
def Flags.dot? (f : Flags) : Option CharSet :=
  if !f.unicode then none
  else if f.dotAll then some anything
  else if f.crlf then some (.complement (.union (.single '\n') (.single '\r')))
  else some (.complement (.single '\n'))

/-- The condition that an anchor stands for. -/
def AnchorKind.meaning (kind : AnchorKind) (f : Flags) : Anchor :=
  match kind with
  | .lineStart => if f.multiline then .lineStart f.crlf else .textStart
  | .lineEnd => if f.multiline then .lineEnd f.crlf else .textEnd
  | .textStart => .textStart
  | .textEnd => .textEnd
  | .boundary => .word .boundary (!f.unicode)
  | .notBoundary => .word .notBoundary (!f.unicode)
  | .wordStart => .word .start (!f.unicode)
  | .wordEnd => .word .finish (!f.unicode)
  | .wordStartHalf => .word .startHalf (!f.unicode)
  | .wordEndHalf => .word .finishHalf (!f.unicode)

/-- A character that stands for itself. A byte beyond ASCII is no character. -/
def Literal.set? (f : Flags) (l : Literal) : Option CharSet :=
  if f.unicode then some (f.fold (.single l.char))
  else if l.char.toNat < 0x80 then some (f.fold (.single l.char))
  else if l.isByte then none
  else some (.single l.char)

mutual

/-- What an expression stands for under some flags, and the flags after it. -/
def Node.meaning? (f : Flags) : Node → Option (Regex × Flags)
  | .literal l => (l.set? f).map fun s => (.one s, f)
  | .dot => f.dot?.map fun s => (.one s, f)
  | .anchor kind => some (.anchor (kind.meaning f), f)
  | .chars item => (item.set? f).map fun s => (.one s, f)
  | .flags changes => some (.empty, f.change changes)
  | .group changes body => do return ((← body.meaning? (f.change changes)).1, f)
  | .repeated body least most => do
    let (r, f) ← body.meaning? f
    return (.repeated r least most, f)
  | .sequence items => sequenceOf? f items
  | .choice branches => choiceOf? f branches

/-- What some expressions in a row stand for. -/
def sequenceOf? (f : Flags) : List Node → Option (Regex × Flags)
  | [] => some (.empty, f)
  | node :: nodes => do
    let (r, f) ← node.meaning? f
    let (s, f) ← sequenceOf? f nodes
    return (.seq r s, f)

/-- What a choice between expressions stands for. -/
def choiceOf? (f : Flags) : List Node → Option (Regex × Flags)
  | [] => some (.one .empty, f)
  | node :: nodes => do
    let (r, f) ← node.meaning? f
    let (s, f) ← choiceOf? f nodes
    return (.either r s, f)

end

/-! ### Size -/

/-- How many bytes a code point has in UTF-8. -/
def utf8Length (n : Nat) : Nat :=
  if n < 0x80 then 1 else if n < 0x800 then 2 else if n < 0x10000 then 3 else 4

/-- About how many states a set of characters unfolds to. -/
def CharSet.states (s : CharSet) : Nat :=
  match s with
  | .spans [⟨first, last, _⟩] =>
    if first = last then utf8Length first
    else if last < 0x80 then 2 else 2 + 2 * s.pieces
  | s => if s.top < 0x80 then 2 + s.pieces / 4 else 2 + 2 * s.pieces

namespace Regex

/-- Whether an expression matches nothing but places. -/
def isPlace : Regex → Bool
  | empty | anchor _ => true
  | one _ => false
  | seq a b | either a b => a.isPlace && b.isPlace
  | repeated r _ most => r.isPlace || most == some 0

/-- About how many states an expression unfolds to. -/
def states : Regex → Nat
  | empty => 0
  | one set => set.states
  | anchor _ => 1
  | seq a b => a.states + b.states
  | either a b => a.states + b.states + 2
  | repeated r least none => if r.isPlace then r.states else max 1 least * r.states + 2
  | repeated r least (some most) =>
    if r.isPlace then r.states else most * r.states + (most - least) + 1

/-- The greatest number of states: ten mebibytes of 32 bytes each. -/
def maxStates : Nat := 10 * 1024 * 1024 / 32

end Regex

/-- The regular expression that a text denotes. -/
def Regex.read? (s : String) : Option Regex := do
  let node ← Node.read? s
  let (r, _) ← node.meaning? {}
  if r.states ≤ Regex.maxStates then some r else none

end LiveForm.Pattern
