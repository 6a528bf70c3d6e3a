import LiveForm.Json.Reader
import LiveForm.Pattern.Syntax
import LiveForm.Text.Blank
import LiveForm.Text.Property

/-!
# Reading patterns

Reads a regular expression. A text that breaks a rule of the syntax, refers back to a group, looks
around, repeats the name of a group or nests too deep is no pattern.
-/

namespace LiveForm.Pattern

/-- What is left to read, and what has to be remembered. -/
structure Cursor where
  /-- The text that is left. -/
  rest : List Char
  /-- Whether blanks and comments are ignored. -/
  spaced : Bool := false
  /-- The names of groups so far. -/
  names : List String := []

/-- Reads something, unless the text breaks a rule. -/
abbrev Reader := StateT Cursor Option

namespace Reader

/-- The next character. -/
def peek? : Reader (Option Char) := do return (← get).rest.head?

/-- The character after the next. -/
def peekSecond? : Reader (Option Char) := do return (← get).rest[1]?

/-- Takes the next character, which must exist. -/
def next : Reader Char := do
  let cursor ← get
  match cursor.rest with
  | [] => failure
  | c :: rest =>
    set { cursor with rest }
    return c

/-- Takes a text if it comes next, and tells whether it did. -/
def accept (text : String) : Reader Bool := do
  let cursor ← get
  match Json.afterWord? text.toList cursor.rest with
  | some rest =>
    set { cursor with rest }
    return true
  | none => return false

/-- Takes a text, which must come next. -/
def expect (text : String) : Reader Unit := do
  if !(← accept text) then failure

/-- Goes on only if a condition holds. -/
def require (condition : Bool) : Reader Unit := if condition then pure () else failure

/-- The text without the blanks and comments at its start. -/
def dropSpace (inComment : Bool) : List Char → List Char
  | [] => []
  | c :: rest =>
    if inComment then dropSpace (c != '\n') rest
    else if Text.isBlank c then dropSpace false rest
    else if c == '#' then dropSpace true rest
    else c :: rest

/-- Passes over blanks and comments if they are ignored. -/
def space : Reader Unit :=
  modify fun cursor =>
    if cursor.spaced then { cursor with rest := dropSpace false cursor.rest } else cursor

/-- Passes over blanks in any case. -/
def blanks : Reader Unit :=
  modify fun cursor => { cursor with rest := cursor.rest.dropWhile Text.isBlank }

/-- The next character after a blank that is ignored, or after the sign of a comment. -/
def secondVisible (rest : List Char) : Option Char :=
  match rest.dropWhile Text.isBlank with
  | '#' :: rest => (rest.dropWhile Text.isBlank).head?
  | rest => rest.head?

/-- The character after the next, without what is ignored. -/
def peekVisible? : Reader (Option Char) := do
  let cursor ← get
  return if cursor.spaced then secondVisible cursor.rest.tail else cursor.rest[1]?

/-- Takes the next character and passes over what is ignored after it; something must be left. -/
def advance : Reader Unit := do
  let _ ← next
  space
  require (← peek?).isSome

/-- Takes the next character and passes over what is ignored after it. -/
def advanceToEnd : Reader Unit := do
  let _ ← next
  space

/-- Takes characters as long as they pass a test, passing over what is ignored. The fuel bounds
their number. -/
def takeWhile (test : Char → Bool) : Nat → Reader (List Char)
  | 0 => failure
  | fuel + 1 => do
    match ← peek? with
    | some c =>
      if test c then
        advanceToEnd
        return c :: (← takeWhile test fuel)
      else return []
    | none => return []

/-- Takes characters as long as they pass a test. -/
def takeAll (test : Char → Bool) : Reader (List Char) := do
  takeWhile test ((← get).rest.length + 1)

/-! ### Escapes -/

/-- The character with a code point. -/
def charOf? (n : Nat) : Option Char := if n.isValidChar then some (Char.ofNat n) else none

/-- The character that hexadecimal digits denote. -/
def hexChar (digits : List Char) : Reader Char :=
  match (Json.hexNumber? digits).bind charOf? with
  | some c => pure c
  | none => failure

/-- So many hexadecimal digits. -/
def hexDigits : Nat → Reader (List Char)
  | 0 => return []
  | n + 1 => do
    let some c ← peek? | failure
    require (Json.hexValue? c).isSome
    advanceToEnd
    return c :: (← hexDigits n)

/-- A character by its code point, after the letter that tells how many digits there are. -/
def codePoint (digits : Nat) : Reader Literal := do
  space
  if (← peek?) == some '{' then
    advanceToEnd
    let ds ← takeAll (· != '}')
    let c ← hexChar ds
    require !ds.isEmpty
    let _ ← next
    space
    return { char := c }
  else return { char := ← hexChar (← hexDigits digits), isByte := digits == 2 }

/-- The parts of a text before and after a separator, at its first occurrence. -/
def splitAt? (separator : List Char) : List Char → Option (List Char × List Char)
  | [] => none
  | c :: rest =>
    match Json.afterWord? separator (c :: rest) with
    | some value => some ([], value)
    | none => (splitAt? separator rest).map fun (name, value) => (c :: name, value)

/-- A property between braces: a name, or a name and a value. -/
def propertyOf (negated : Bool) (text : List Char) : ClassItem :=
  match splitAt? ['!', '='] text <|> splitAt? [':'] text <|> splitAt? ['='] text with
  | some (name, value) => .property negated (String.ofList name) (some (String.ofList value))
  | none => .property negated (String.ofList text) none

/-- A property, after the letter that starts it. -/
def property (negated : Bool) : Reader ClassItem := do
  space
  let some c ← peek? | failure
  if c == '{' then
    advanceToEnd
    let text ← takeAll (· != '}')
    let _ ← next
    return propertyOf negated text
  else
    require (c != '\\')
    advanceToEnd
    return .property negated c.toString none

/-- Whether a character has a meaning of its own somewhere in a pattern. -/
def isMeta (c : Char) : Bool := "\\.+*?()|[]\x7b\x7d^$#&-~".toList.contains c

/-- Whether a character stands for itself after a backslash. -/
def isEscapable (c : Char) : Bool :=
  isMeta c || (c.toNat < 0x80 && !c.isAlphanum && c != '<' && c != '>')

/-- The kind of word boundary that a name in braces stands for. -/
def boundaryKind? (name : List Char) : Option AnchorKind :=
  match String.ofList name with
  | "start" => some .wordStart
  | "end" => some .wordEnd
  | "start-half" => some .wordStartHalf
  | "end-half" => some .wordEndHalf
  | _ => none

/-- What follows the letter of a word boundary: a name in braces, unless the braces hold no name. -/
def boundary : Reader AnchorKind := do
  let before ← get
  if ← accept "\x7b" then
    space
    let some c ← peek? | failure
    let inName := fun (c : Char) => c.isAlpha || c == '-'
    if inName c then
      let name ← takeAll inName
      expect "\x7d"
      match boundaryKind? name with
      | some kind => return kind
      | none => failure
    else
      set before
      return .boundary
  else return .boundary

/-- The character that a letter after a backslash stands for. -/
def controlOf? : Char → Option Char
  | 'a' => some '\x07'
  | 'f' => some '\x0c'
  | 't' => some '\t'
  | 'n' => some '\n'
  | 'r' => some '\r'
  | 'v' => some '\x0b'
  | _ => none

/-- An escape, after its backslash. -/
def escape : Reader Node := do
  let c ← next
  match c with
  | 'x' => return .literal (← codePoint 2)
  | 'u' => return .literal (← codePoint 4)
  | 'U' => return .literal (← codePoint 8)
  | 'p' => return .chars (← property false)
  | 'P' => return .chars (← property true)
  | 'd' => return .chars (.shorthand false .digit)
  | 'D' => return .chars (.shorthand true .digit)
  | 's' => return .chars (.shorthand false .blank)
  | 'S' => return .chars (.shorthand true .blank)
  | 'w' => return .chars (.shorthand false .word)
  | 'W' => return .chars (.shorthand true .word)
  | 'A' => return .anchor .textStart
  | 'z' => return .anchor .textEnd
  | 'b' => return .anchor (← boundary)
  | 'B' => return .anchor .notBoundary
  | '<' => return .anchor .wordStart
  | '>' => return .anchor .wordEnd
  | c =>
    if isEscapable c then return .literal { char := c }
    else
      match controlOf? c with
      | some c => return .literal { char := c }
      | none => failure

/-! ### Classes in brackets -/

/-- The ASCII characters of a class with a name. -/
def namedClass? (name : String) : Option CharSet :=
  let table? : Option String := match name with
    | "alnum" => some "30-39 41-5A 61-7A"
    | "alpha" => some "41-5A 61-7A"
    | "ascii" => some "0-7F"
    | "blank" => some "9 20"
    | "cntrl" => some "0-1F 7F"
    | "digit" => some "30-39"
    | "graph" => some "21-7E"
    | "lower" => some "61-7A"
    | "print" => some "20-7E"
    | "punct" => some "21-2F 3A-40 5B-60 7B-7E"
    | "space" => some "9-D 20"
    | "upper" => some "41-5A"
    | "word" => some "30-39 41-5A 5F 61-7A"
    | "xdigit" => some "30-39 41-46 61-66"
    | _ => none
  table?.map fun table => .spans (Text.spans table)

/-- The class with a name at the start of a text that follows an opening bracket. -/
def namedItem? (s : List Char) : Option (ClassItem × List Char) := do
  let s ← Json.afterWord? [':'] s
  let (negated, s) := match s with
    | '^' :: s => (true, s)
    | s => (false, s)
  let set ← namedClass? (String.ofList (s.takeWhile (· != ':')))
  let rest ← Json.afterWord? [':', ']'] (s.dropWhile (· != ':'))
  return (.named negated set, rest)

/-- Takes a class with a name, if one comes next after its opening bracket. -/
def named? : Reader (Option ClassItem) := do
  let cursor ← get
  match namedItem? cursor.rest with
  | some (item, rest) =>
    set { cursor with rest }
    return some item
  | none => return none

/-- One item of a class, or what cannot be one. -/
def classPrimitive : Reader Node := do
  let c ← next
  if c == '\\' then escape else return .literal { char := c }

/-- An expression as an item of a class. -/
def itemOf : Node → Reader ClassItem
  | .literal l => return .literal l
  | .chars item => return item
  | _ => failure

/-- One item or range of a class. -/
def classRange : Reader ClassItem := do
  let first ← classPrimitive
  space
  let c ← peek?
  require c.isSome
  let after ← peekVisible?
  if c != some '-' || after == some ']' || after == some '-' then itemOf first
  else
    advance
    match first, ← classPrimitive with
    | .literal a, .literal b =>
      require (a.char ≤ b.char)
      return .range a b
    | _, _ => failure

/-- Takes hyphens, each of which stands for itself. The fuel bounds their number. -/
def hyphens : Nat → Reader (List ClassItem)
  | 0 => failure
  | fuel + 1 => do
    if (← peek?) == some '-' then
      advance
      return .literal { char := '-' } :: (← hyphens fuel)
    else return []

/-- What follows an opening bracket: whether the class is negated, and the items that only here
stand for themselves. -/
def classStart : Reader (Bool × List ClassItem) := do
  space
  let some c ← peek? | failure
  let negated := c == '^'
  if negated then advance
  let items ← hyphens ((← get).rest.length + 1)
  if items.isEmpty && (← peek?) == some ']' then
    advance
    return (negated, [.literal { char := ']' }])
  else return (negated, items)

/-- Applies an operation that waits for its right side. -/
def applyPending (pending : Option (ClassOperation × ClassItem)) (items : List ClassItem) :
    ClassItem :=
  let right := ClassItem.ofItems items.reverse
  match pending with
  | some (op, left) => .operation op left right
  | none => right

/-- The operation that two equal characters stand for. -/
def operationOf? (c : Char) : Option ClassOperation :=
  match c with
  | '&' => some .inter
  | '-' => some .diff
  | '~' => some .symmetricDiff
  | _ => none

/-- The rest of a class up to its closing bracket. The items of the open operand come in reverse.
The fuel bounds the number of steps. -/
def classBody : Nat → Option (ClassOperation × ClassItem) → List ClassItem → Reader ClassItem
  | 0, _, _ => failure
  | fuel + 1, pending, items => do
    space
    let some c ← peek? | failure
    if c == ']' then
      let _ ← next
      return applyPending pending items
    else if c == '[' then
      let _ ← next
      match ← named? with
      | some item => classBody fuel pending (item :: items)
      | none =>
        let (negated, start) ← classStart
        let body ← classBody fuel none start.reverse
        classBody fuel pending (.bracketed negated body :: items)
    else
      match operationOf? c, (← peekSecond?) == some c with
      | some op, true =>
        let _ ← next
        let _ ← next
        classBody fuel (some (op, applyPending pending items)) []
      | _, _ =>
        let item ← classRange
        classBody fuel pending (item :: items)

/-- A class after its opening bracket. -/
def bracketed : Reader ClassItem := do
  let (negated, start) ← classStart
  let body ← classBody ((← get).rest.length + 1) none start.reverse
  return .bracketed negated body

/-! ### Groups -/

/-- The flag of a letter. -/
def flagOf? : Char → Option Flag
  | 'i' => some .caseless
  | 'm' => some .multiline
  | 's' => some .dotAll
  | 'U' => some .swapGreed
  | 'u' => some .unicode
  | 'R' => some .crlf
  | 'x' => some .spaced
  | _ => none

/-- The changes that letters stand for: those after a hyphen turn flags off. No letter may occur
twice, and nothing may end in its hyphen. -/
def changesOf? (on : Bool) : List Char → Option FlagChanges
  | [] => some []
  | '-' :: rest => if on && !rest.isEmpty then changesOf? false rest else none
  | c :: rest => do
    let flag ← flagOf? c
    let changes ← changesOf? on rest
    if changes.any (·.1 == flag) then none else some ((flag, on) :: changes)

/-- Whether a character may occur in the name of a group. -/
def inName (c : Char) : Bool :=
  "_.[]".toList.contains c ||
    Text.inSpans
      (Text.Property.alphabetic ++ Text.Category.decimalNumber ++ Text.Category.letterNumber ++
        Text.Category.otherNumber)
      c.toNat

/-- Whether a character may start the name of a group. -/
def startsName (c : Char) : Bool := c == '_' || Text.inSpans Text.Property.alphabetic c.toNat

/-- The name of a group up to the bracket that closes it. -/
def groupName : Reader Unit := do
  let cursor ← get
  let name := cursor.rest.takeWhile (· != '>')
  require (name.head?.any startsName && name.all inName)
  require !cursor.names.contains (String.ofList name)
  set { cursor with
    rest := cursor.rest.drop name.length, names := String.ofList name :: cursor.names }
  expect ">"

/-- What stands after an opening parenthesis. -/
inductive Opening where
  /-- Nothing but flags, for the rest of the group. -/
  | flags (changes : FlagChanges)
  /-- The start of a group with flags of its own. -/
  | group (changes : FlagChanges)

/-- What follows an opening parenthesis. -/
def opening : Reader Opening := do
  space
  if ← accept "?" then
    let rest := (← get).rest
    match rest with
    | '=' :: _ | '!' :: _ => failure
    | '<' :: '=' :: _ | '<' :: '!' :: _ => failure
    | _ =>
      if (← accept "P<") || (← accept "<") then
        groupName
        return .group []
      else
        let letters := rest.takeWhile fun c => c != ':' && c != ')'
        match changesOf? true letters with
        | none => failure
        | some changes =>
          modify fun cursor => { cursor with rest := cursor.rest.drop letters.length }
          if (← next) == ')' then
            require !letters.isEmpty
            return .flags changes
          else return .group changes
  else return .group []

/-- Whether blanks are ignored after some changes. -/
def spacedAfter (before : Bool) (changes : FlagChanges) : Bool :=
  ((changes.find? (·.1 == .spaced)).map (·.2)).getD before

/-- Sets whether blanks are ignored. -/
def setSpaced (spaced : Bool) : Reader Unit := modify fun cursor => { cursor with spaced }

/-! ### Repetitions -/

/-- The greatest number of repetitions that can be written. -/
def maxCount : Nat := UInt32.size - 1

/-- A number of repetitions, which may be left out. -/
def count? : Reader (Option Nat) := do
  blanks
  let digits ← takeAll Char.isDigit
  blanks
  space
  if digits.isEmpty then return none
  else
    let n := digits.foldl (fun n d => 10 * n + (d.toNat - '0'.toNat)) 0
    require (n ≤ maxCount)
    return some n

/-- A number of repetitions. -/
def count : Reader Nat := do
  let some n ← count? | failure
  return n

/-- The numbers of repetitions in braces, after the opening brace. -/
def counts : Reader (Nat × Option Nat) := do
  space
  let least ← count
  if ← accept "," then
    space
    if (← peek?) == some '}' then return (least, none)
    else
      let most ← count
      require (least ≤ most)
      return (least, some most)
  else return (least, some least)

/-- Whether an expression can be repeated. -/
def isRepeatable : Node → Bool
  | .flags _ => false
  | _ => true

/-- How often the sign at the start of the text, which has been seen, repeats what is before it. -/
def repetition : Reader (Nat × Option Nat) := do
  match ← next with
  | '?' =>
    let _ ← accept "?"
    return (0, some 1)
  | '*' =>
    let _ ← accept "?"
    return (0, none)
  | '+' =>
    let _ ← accept "?"
    return (1, none)
  | _ =>
    let bounds ← counts
    expect "\x7d"
    space
    let _ ← accept "?"
    return bounds

/-! ### Expressions -/

/-- The rest of an expression up to the end of its group. Branches and items come in reverse. The
fuel bounds the number of steps. -/
def expression : Nat → List Node → List Node → Reader Node
  | 0, _, _ => failure
  | fuel + 1, branches, items => do
    space
    match ← peek? with
    | none | some ')' =>
      return .ofBranches (Node.ofItems items.reverse :: branches).reverse
    | some '|' =>
      let _ ← next
      expression fuel (Node.ofItems items.reverse :: branches) []
    | some '(' =>
      let _ ← next
      let before := (← get).spaced
      match ← opening with
      | .flags changes =>
        setSpaced (spacedAfter before changes)
        expression fuel branches (.flags changes :: items)
      | .group changes =>
        setSpaced (spacedAfter before changes)
        let body ← expression fuel [] []
        expect ")"
        setSpaced before
        expression fuel branches (.group changes body :: items)
    | some '[' =>
      let _ ← next
      let item ← bracketed
      expression fuel branches (.chars item :: items)
    | some c =>
      if "?*+\x7b".toList.contains c then
        match items with
        | [] => failure
        | last :: items =>
          require (isRepeatable last)
          let (least, most) ← repetition
          expression fuel branches (.repeated last least most :: items)
      else
        let _ ← next
        match c with
        | '\\' =>
          let node ← escape
          expression fuel branches (node :: items)
        | '.' => expression fuel branches (.dot :: items)
        | '^' => expression fuel branches (.anchor .lineStart :: items)
        | '$' => expression fuel branches (.anchor .lineEnd :: items)
        | c => expression fuel branches (.literal { char := c } :: items)

end Reader

/-- The expression that a text denotes. -/
def Node.read? (s : String) : Option Node :=
  match (Reader.expression (s.length + 1) [] []).run { rest := s.toList } with
  | some (node, cursor) =>
    if cursor.rest.isEmpty && node.depth ≤ maxDepth then some node else none
  | none => none

end LiveForm.Pattern
