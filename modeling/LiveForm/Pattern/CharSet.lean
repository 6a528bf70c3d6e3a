import LiveForm.Text.CaseFolding

/-!
# Sets of characters

A set of characters as a pattern writes it: spans, set operations on sets, and the closure of a set
under change of case.
-/

namespace LiveForm.Pattern

open Text (Span)

/-- A set of code points. -/
inductive CharSet where
  | spans (table : List Span)
  | union (a b : CharSet)
  | inter (a b : CharSet)
  | diff (a b : CharSet)
  | complement (a : CharSet)
  /-- What differs from a member in case only. -/
  | folded (a : CharSet)
  deriving DecidableEq, Repr

namespace CharSet

/-- The set without members. -/
def empty : CharSet := .spans []

/-- The code points from the first to the last. -/
def range (first last : Char) : CharSet := .spans [{ first := first.toNat, last := last.toNat }]

/-- The set of one character. -/
def single (c : Char) : CharSet := range c c

/-- Whether a code point belongs to a set. -/
def contains : CharSet → Nat → Bool
  | spans table, n => Text.inSpans table n
  | union a b, n => a.contains n || b.contains n
  | inter a b, n => a.contains n && b.contains n
  | diff a b, n => a.contains n && !b.contains n
  | complement a, n => !a.contains n
  | folded a, n => (Text.cases n).any fun m => a.contains m

/-- What belongs to exactly one of two sets. -/
def symmetricDiff (a b : CharSet) : CharSet := .union (.diff a b) (.diff b a)

/-- A bound on the code points of a set. -/
def top : CharSet → Nat
  | spans table => (table.map (·.last)).foldl max 0
  | union a b => max a.top b.top
  | inter a b => min a.top b.top
  | diff a _ => a.top
  | complement _ => 0x10FFFF
  | folded a =>
    if a.top ≤ 0x7F && !"KSks".toList.any fun c => a.contains c.toNat then 0x7F else 0x10FFFF

/-- Roughly how many unbroken pieces a set has. -/
def pieces : CharSet → Nat
  | spans table => (table.map (·.pieces)).sum
  | union a b | inter a b | diff a b => a.pieces + b.pieces
  | complement a => a.pieces + 12
  | folded a => 2 * a.pieces

end CharSet

end LiveForm.Pattern
