import LiveForm.Json.Reader

/-!
# Strings and blanks in TOML

The four kinds of string: basic and literal, each on one line or on several. Basic strings have
escapes. A line break is a line feed, with or without a carriage return before it, and reads as a
line feed.
-/

namespace LiveForm.Toml

/-- Whether the character is a blank within a line. -/
def isSpace (c : Char) : Bool := c == ' ' || c == '\t'

/-- The text without the blanks at its start. -/
def skipSpace (s : List Char) : List Char := s.dropWhile isSpace

/-- Whether a character may stand in a comment or a literal string on one line. -/
def isPlain (c : Char) : Bool := c == '\t' || (0x20 ≤ c.toNat && c.toNat != 0x7F)

/-- What follows a line break, if the text starts with one. -/
def afterNewline? : List Char → Option (List Char)
  | '\n' :: r => some r
  | '\r' :: '\n' :: r => some r
  | _ => none

/-- The text without a line break at its start. -/
def skipNewline (s : List Char) : List Char := (afterNewline? s).getD s

/-- The text without the comment at its start, which goes on to the end of the line. -/
def skipComment : List Char → List Char
  | '#' :: r => r.dropWhile isPlain
  | s => s

/-- The text without the blanks and line breaks at its start. -/
def skipLines : List Char → List Char
  | '\r' :: '\n' :: r => skipLines r
  | c :: r => if isSpace c || c == '\n' then skipLines r else c :: r
  | [] => []

/-- Skips blanks, line breaks and comments. A comment must end with its line; the flag tells whether
one is open. -/
def skipLayout (inComment : Bool) : List Char → Option (List Char)
  | '\n' :: r => skipLayout false r
  | '\r' :: '\n' :: r => skipLayout false r
  | c :: r =>
    if inComment then (if isPlain c then skipLayout true r else none)
    else if isSpace c then skipLayout false r
    else if c = '#' then skipLayout true r
    else some (c :: r)
  | [] => if inComment then none else some []

/-- The character of an escape with one letter. -/
def escaped? : Char → Option Char
  | 'b' => some '\x08'
  | 't' => some '\t'
  | 'n' => some '\n'
  | 'f' => some '\x0c'
  | 'r' => some '\r'
  | '"' => some '"'
  | '\\' => some '\\'
  | _ => none

/-- The character with a code point in hexadecimal. -/
def codePoint? (digits : List Char) : Option Char :=
  (Json.hexNumber? digits).bind fun n =>
    if n.isValidChar then some (Char.ofNat n) else none

/-- The character of the escape after a backslash, and what follows it. -/
def escapeOf : List Char → Option (Char × List Char)
  | 'u' :: r =>
    if r.length < 4 then none else (codePoint? (r.take 4)).map (·, r.drop 4)
  | 'U' :: r =>
    if r.length < 8 then none else (codePoint? (r.take 8)).map (·, r.drop 8)
  | c :: r => (escaped? c).map (·, r)
  | [] => none

/-- A string and the text after it; the string comes in reverse until it ends. -/
abbrev StringReader := List Char → List Char → Option (String × List Char)

/-- The end of a string. -/
def ended (done rest : List Char) : Option (String × List Char) :=
  some (String.ofList done.reverse, rest)

/-- A basic string on one line after its opening quote. The fuel bounds the number of characters. -/
def basicString : Nat → StringReader
  | 0, _, _ => none
  | _ + 1, done, '"' :: r => ended done r
  | fuel + 1, done, '\\' :: r =>
    match escapeOf r with
    | none => none
    | some (c, r) => basicString fuel (c :: done) r
  | fuel + 1, done, c :: r => if isPlain c then basicString fuel (c :: done) r else none
  | _ + 1, _, [] => none

/-- A literal string on one line after its opening apostrophe. -/
def literalString (done : List Char) : List Char → Option (String × List Char)
  | '\'' :: r => ended done r
  | c :: r => if isPlain c then literalString (c :: done) r else none
  | [] => none

/-- How many of the characters at the start of a text are the given one, up to five. -/
def runLength (quote : Char) (s : List Char) : Nat := ((s.take 5).takeWhile (· == quote)).length

/-- A string on several lines. Up to two quotes may stand inside it, and also right before the three
that end it. An escape is read by `escape`, which also skips a line break that is escaped. -/
def longString (quote : Char) (escape : List Char → Option (List Char × List Char)) :
    Nat → StringReader
  | 0, _, _ => none
  | _ + 1, _, [] => none
  | fuel + 1, done, c :: r =>
    if c = quote then
      let n := runLength quote (c :: r)
      if 3 ≤ n then ended (List.replicate (n - 3) quote ++ done) ((c :: r).drop n)
      else longString quote escape fuel (c :: done) r
    else
      match escape (c :: r) with
      | some (cs, r) => longString quote escape fuel (cs ++ done) r
      | none =>
        match afterNewline? (c :: r) with
        | some r => longString quote escape fuel ('\n' :: done) r
        | none =>
          if isPlain c && !(quote == '"' && c == '\\') then
            longString quote escape fuel (c :: done) r
          else none

/-- The escape at the start of a text: a character, or nothing for an escaped line break together
with the blanks and line breaks around it. -/
def longEscape : List Char → Option (List Char × List Char)
  | '\\' :: r =>
    match escapeOf r with
    | some (c, r) => some ([c], r)
    | none => (afterNewline? (skipSpace r)).map fun r => ([], skipLines r)
  | _ => none

/-- The string at the start of a text. -/
def stringOf : List Char → Option (String × List Char)
  | '"' :: '"' :: '"' :: r => longString '"' longEscape r.length [] (skipNewline r)
  | '\'' :: '\'' :: '\'' :: r => longString '\'' (fun _ => none) r.length [] (skipNewline r)
  | '"' :: r => basicString r.length [] r
  | '\'' :: r => literalString [] r
  | _ => none

end LiveForm.Toml
