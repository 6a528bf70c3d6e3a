import LiveForm.Condition
import LiveForm.Proofs.Text.Lowercase

/-!
# Conditions that look for a text

An answer contains each text that is written in it, whatever the types of the two values are. The one
exception is a capital sigma at an end of the text: its lower case by itself may not be the one that
it has in the answer.
-/

namespace LiveForm

/-- **A text that is written in an answer is found.** If the text of a value stands somewhere in the
text of an answer, and each capital sigma of it is at the end of a word there just if it is in the
value by itself, then the answer contains the value. -/
theorem contains_of_occurs {answer value : Option Json} {front back : List Char}
    (hoccurs : (Json.asText answer).toList = front ++ (Json.asText value).toList ++ back)
    (hsigmas : Text.SigmasAgree front.reverse back [] [] (Json.asText value).toList) :
    Operator.contains.holds answer value = true ∧
      Operator.notContains.holds answer value = false := by
  have hcontains : containsText answer value := by
    rw [containsText, Text.occursIn_iff, hoccurs]
    exact Text.lowercase_infix hsigmas
  exact ⟨hcontains, by rw [Operator.holds, hcontains]; rfl⟩

/-- A street is found at the end of an address: its last letter is at the end of a word in both. -/
theorem contains_of_occurs_street :
    let answer : Option Json := some (.list [.text "ΑΘΗΝΑ", .text "ΝΕΑ ΟΔΟΣ"])
    let value : Option Json := some (.text "ΟΔΟΣ")
    let front := "ΑΘΗΝΑ,ΝΕΑ ".toList
    (Json.asText answer).toList = front ++ (Json.asText value).toList ++ [] ∧
      Text.SigmasAgree front.reverse [] [] [] (Json.asText value).toList ∧
      Operator.contains.holds answer value = true ∧
      Operator.notContains.holds answer value = false := by
  intro answer value front
  have hvalue : (Json.asText value).toList = ['Ο', 'Δ', 'Ο', 'Σ'] := by decide +kernel
  have hoccurs : (Json.asText answer).toList = front ++ (Json.asText value).toList ++ [] := by
    decide +kernel
  have hsigmas : Text.SigmasAgree front.reverse [] [] [] (Json.asText value).toList := by
    rw [hvalue]
    simp only [Text.sigmasAgree_cons]
    refine ⟨by decide, by decide, by decide, fun _ => ?_,
      Text.sigmasAgree_of_not_mem (by simp) _ _ _ _⟩
    rw [Text.endsWord, Text.endsWord, Text.casedNext_cons (by decide),
      Text.casedNext_cons (by decide)]
  exact ⟨hoccurs, hsigmas, contains_of_occurs hoccurs hsigmas⟩

/-- The last letter of a street is not found in it: by itself it is not at the end of a word. -/
theorem not_contains_sigma :
    let answer : Option Json := some (.text "ΟΔΟΣ")
    let value : Option Json := some (.text "Σ")
    (Json.asText answer).toList = "ΟΔΟ".toList ++ (Json.asText value).toList ++ [] ∧
      Operator.contains.holds answer value = false ∧
      Operator.notContains.holds answer value = true := by
  intro answer value
  have hvalue : Text.lowercase (Json.asText value).toList = ['σ'] := by decide +kernel
  have htext : (Json.asText answer).toList = ['Ο', 'Δ', 'Ο', 'Σ'] := by decide +kernel
  have hanswer : Text.lowercase (Json.asText answer).toList = ['ο', 'δ', 'ο', 'ς'] := by
    have hends : Text.casedNext ['Ο', 'Δ', 'Ο'] := Text.casedNext_cons (by decide) _
    have hlast : Text.casedNext [] = false := rfl
    rw [htext, Text.lowercase]
    simp [Text.lowercaseFrom, Text.lowercaseChar_eq (c := 'Ο') (by decide),
      Text.lowercaseChar_eq (c := 'Δ') (by decide), hends, hlast]
  have hcontains : containsText answer value = false := by
    rw [containsText, hvalue, hanswer]
    decide
  exact ⟨by decide +kernel, hcontains, by rw [Operator.holds, hcontains]; rfl⟩

end LiveForm
