import LiveForm.Json.Printer
import LiveForm.Json.Reader

/-!
# Texts in quotes

The reader takes a text in quotes back, whatever follows it. So a text in quotes ends at one place
only, and it determines the text.
-/

namespace LiveForm.Json

/-- The four digits of an escaped control character. -/
theorem hexNumber?_control :
    ∀ n < 0x20, hexNumber? ['0', '0', hexDigit (n / 16), hexDigit (n % 16)] = some n := by
  decide

/-- A code unit that is no half of a pair adds its character. -/
theorem addUnit_of_lt (p : Partial) {c : Char} (h : c.toNat < 0x20) :
    addUnit p c.toNat = addChar p c := by
  have hlow : isLowHalf c.toNat = false := by simp [isLowHalf]; omega
  have hhigh : isHighHalf c.toNat = false := by simp [isHighHalf]; omega
  match p with
  | none => rfl
  | some (none, done) => simp [addUnit, addChar, joinHalves, hlow, hhigh]
  | some (some half, done) => simp [addUnit, addChar, joinHalves, hlow]

/-- The reader takes a character from its escaped form. -/
theorem stringBody_escape (p : Partial) (c : Char) (rest : List Char) :
    stringBody p (escape c ++ rest) = stringBody (addChar p c) rest := by
  unfold escape
  split
  case h_8 hquote hbackslash _ _ _ _ _ =>
    split
    case isTrue hcontrol =>
      simp only [List.cons_append, List.nil_append, stringBody,
        hexNumber?_control c.toNat hcontrol, addUnit_of_lt p hcontrol]
    case isFalse hcontrol =>
      rw [List.singleton_append, stringBody, if_neg hcontrol]
      all_goals simp_all
  all_goals simp [stringBody, escaped?]

/-- The reader takes all characters from their escaped forms. -/
theorem stringBody_flatMap_escape (done cs rest : List Char) :
    stringBody (some (none, done)) (cs.flatMap escape ++ rest) =
      stringBody (some (none, cs.reverse ++ done)) rest := by
  induction cs generalizing done with
  | nil => rfl
  | cons c cs ih =>
    rw [List.flatMap_cons, List.append_assoc, stringBody_escape, addChar, ih]
    simp

/-- The reader takes a text back from its quotes. -/
theorem stringOf_quote (s : String) (rest : List Char) :
    stringOf (s.toList.flatMap escape ++ '"' :: rest) = some (some s, rest) := by
  rw [stringOf, stringBody_flatMap_escape, stringBody]
  simp [finish]

/-- A text in quotes begins with a quote. -/
theorem quote_append (s : String) (rest : List Char) :
    quote s ++ rest = '"' :: (s.toList.flatMap escape ++ '"' :: rest) := by
  simp [quote]

/-- A text in quotes can be told from what follows it. -/
theorem quote_append_inj {s t : String} {r r' : List Char} (h : quote s ++ r = quote t ++ r') :
    s = t ∧ r = r' := by
  rw [quote_append, quote_append, List.cons.injEq] at h
  have hread := congrArg stringOf h.2
  rw [stringOf_quote, stringOf_quote] at hread
  simpa using hread

end LiveForm.Json
