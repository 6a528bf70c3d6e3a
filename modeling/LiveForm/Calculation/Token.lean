import LiveForm.Decimal.Reading
import LiveForm.Text.Blank

/-!
# Tokens of arithmetic

An arithmetic text is a sequence of number literals, operators and parentheses, with blanks anywhere
between them. Two stars in a row are always one power sign.
-/

namespace LiveForm.Calculation

/-- A token of an arithmetic text. -/
inductive Token where
  | number (x : Float)
  | plus
  | minus
  | star
  | slash
  | power
  | opening
  | closing
  deriving DecidableEq, Repr

/-- Whether a character belongs to a number literal. -/
def inLiteral (c : Char) : Bool := Decimal.isDigit c || c == '.'

/-- The number of a literal: digits with at most one point and at least one digit. -/
def literal? (s : List Char) : Option Float := (Decimal.parts? s).map Decimal.Parts.toFloat

/-- Puts the token of a literal that has ended in front of the tokens after it. The literal comes in
reverse and is empty where none was open. -/
def closeLiteral (pending : List Char) (after : Option (List Token)) : Option (List Token) :=
  if pending.isEmpty then after
  else
    match literal? pending.reverse with
    | none => none
    | some x => after.map (.number x :: ·)

/-- The tokens of a text after a literal that is still open. -/
def tokensFrom (pending : List Char) : List Char → Option (List Token)
  | [] => closeLiteral pending (some [])
  | '*' :: '*' :: r => closeLiteral pending ((tokensFrom [] r).map (.power :: ·))
  | '*' :: r => closeLiteral pending ((tokensFrom [] r).map (.star :: ·))
  | '+' :: r => closeLiteral pending ((tokensFrom [] r).map (.plus :: ·))
  | '-' :: r => closeLiteral pending ((tokensFrom [] r).map (.minus :: ·))
  | '/' :: r => closeLiteral pending ((tokensFrom [] r).map (.slash :: ·))
  | '(' :: r => closeLiteral pending ((tokensFrom [] r).map (.opening :: ·))
  | ')' :: r => closeLiteral pending ((tokensFrom [] r).map (.closing :: ·))
  | c :: r =>
    if inLiteral c then tokensFrom (c :: pending) r
    else if Text.isBlank c then closeLiteral pending (tokensFrom [] r)
    else none

/-- The tokens of an arithmetic text. -/
def tokens? (s : List Char) : Option (List Token) := tokensFrom [] s

end LiveForm.Calculation
