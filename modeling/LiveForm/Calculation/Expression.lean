import LiveForm.Calculation.Token

/-!
# Arithmetic expressions

Sums of products of signed powers, evaluated in double precision. Sums and products group to the
left, powers to the right, and a sign is applied after the power to its right. Parentheses, signs
and exponents nest at most 64 levels.
-/

namespace LiveForm.Calculation

/-- A binary operation. -/
inductive Operation where
  | add
  | subtract
  | multiply
  | divide
  | raise
  deriving DecidableEq, Repr

/-- The result of an operation on doubles. -/
def Operation.apply : Operation → Float → Float → Float
  | .add, x, y => x + y
  | .subtract, x, y => x - y
  | .multiply, x, y => x * y
  | .divide, x, y => x / y
  | .raise, x, y => x ^ y

/-- An arithmetic expression. A plus sign and parentheses leave no trace. -/
inductive Expression where
  | number (x : Float)
  | negate (e : Expression)
  | binary (op : Operation) (left right : Expression)
  deriving DecidableEq, Repr

/-- The value of an expression. -/
def Expression.value : Expression → Float
  | .number x => x
  | .negate e => -e.value
  | .binary op l r => op.apply l.value r.value

/-- Reads an expression off the front of some tokens. -/
abbrev Reader := List Token → Option (Expression × List Token)

/-- The operation of a sum that a token stands for. -/
def sumOperation? : Token → Option Operation
  | .plus => some .add
  | .minus => some .subtract
  | _ => none

/-- The operation of a product that a token stands for. -/
def productOperation? : Token → Option Operation
  | .star => some .multiply
  | .slash => some .divide
  | _ => none

/-- Goes on with a chain of operands, grouped to the left, as long as an operator follows. The fuel
bounds the number of operators. -/
def chain (operation? : Token → Option Operation) (operand : Reader) :
    Nat → Expression → Reader
  | 0, e, ts => some (e, ts)
  | _ + 1, e, [] => some (e, [])
  | fuel + 1, e, t :: ts =>
    match operation? t with
    | none => some (e, t :: ts)
    | some op =>
      match operand ts with
      | none => none
      | some (e', rest) => chain operation? operand fuel (.binary op e e') rest

/-- A chain of at least one operand. -/
def chainOf (operation? : Token → Option Operation) (operand : Reader) : Reader := fun ts =>
  match operand ts with
  | none => none
  | some (e, rest) => chain operation? operand rest.length e rest

/-- A sum of products, given what their factors are. -/
def sumOf (factor : Reader) : Reader := chainOf sumOperation? (chainOf productOperation? factor)

/-- A number, or a sum in parentheses, whose factors may nest as `inner` says. -/
def primaryOf (inner : Option Reader) : Reader
  | .number x :: rest => some (.number x, rest)
  | .opening :: ts =>
    match inner with
    | none => none
    | some factor =>
      match sumOf factor ts with
      | some (e, .closing :: rest) => some (e, rest)
      | _ => none
  | _ => none

/-- A primary, raised to a factor if a power sign follows. -/
def powerOf (inner : Option Reader) : Reader := fun ts =>
  match primaryOf inner ts with
  | none => none
  | some (base, .power :: ts) =>
    match inner with
    | none => none
    | some factor => (factor ts).map fun (exponent, rest) => (.binary .raise base exponent, rest)
  | some (base, rest) => some (base, rest)

/-- A factor: a power, or a sign before a factor one level deeper. -/
def factorOf (inner : Option Reader) : Reader
  | .plus :: ts => inner.bind fun factor => factor ts
  | .minus :: ts =>
    inner.bind fun factor => (factor ts).map fun (e, rest) => (.negate e, rest)
  | ts => powerOf inner ts

/-- A factor in which parentheses, signs and exponents nest at most so many levels. -/
def factor : Nat → Reader
  | 0 => factorOf none
  | levels + 1 => factorOf (some (factor levels))

/-- How many levels parentheses, signs and exponents may nest. -/
def maxLevels : Nat := 64

/-- The expression that a whole list of tokens spells. -/
def Expression.ofTokens? (ts : List Token) : Option Expression :=
  match sumOf (factor maxLevels) ts with
  | some (e, []) => some e
  | _ => none

/-- The value of an arithmetic text, if it is well formed and its value is finite. -/
def arithmetic? (s : List Char) : Option Float :=
  ((tokens? s).bind Expression.ofTokens?).bind fun e =>
    if e.value.isFinite then some e.value else none

end LiveForm.Calculation
