import LiveForm.Pattern.Meaning

/-!
# Patterns

The regular expressions that answers are checked against. A pattern matches an answer if it matches
anywhere in it.
-/

namespace LiveForm.Pattern

/-- Whether a text is a pattern. -/
def isValid (pattern : String) : Bool := (Regex.read? pattern).isSome

/-- Whether a pattern matches somewhere in a text; nothing if it is no pattern. -/
def matches? (pattern text : String) : Option Bool :=
  (Regex.read? pattern).map fun r => r.occursIn text.toList

end LiveForm.Pattern
