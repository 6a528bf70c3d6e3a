import LiveForm.Proofs.Decimal.Layout
import LiveForm.Proofs.Validation

/-!
# The first check that fails

An answer has to pass some checks in order: it is given if one is required, it suits the kind of the
field, and no validation rule rejects it. A rule that makes no sense rejects nothing. For each field
that counts, validation reports the message of the first check that fails, and nothing if there is
none. In what order the fields are defined does not matter.
-/

namespace LiveForm

/-! ### Addresses -/

/-- A text is an address: a name, a host and a domain, with an at sign and a dot between them. None
of the three is empty, or has blanks or at signs in it. -/
def IsAddress (s : List Char) : Prop :=
  ∃ name host domain, s = name ++ '@' :: (host ++ '.' :: domain) ∧
    name ≠ [] ∧ host ≠ [] ∧ domain ≠ [] ∧
    ∀ c ∈ name ++ host ++ domain, Text.isBlank c = false ∧ c ≠ '@'

/-- A dot stands in a text, neither first nor last. -/
theorem contains_inside_iff {s : List Char} :
    s.tail.dropLast.contains '.' ↔
      ∃ host domain, s = host ++ '.' :: domain ∧ host ≠ [] ∧ domain ≠ [] := by
  rw [List.contains_iff_mem]
  constructor
  · intro h
    cases s with
    | nil => cases h
    | cons first s =>
      have hne : s ≠ [] := by
        rintro rfl
        cases h
      obtain ⟨before, after, hsplit⟩ := List.append_of_mem h
      refine ⟨first :: before, after ++ [s.getLast hne], ?_, by simp, by simp⟩
      have hs := List.dropLast_concat_getLast hne
      rw [List.tail_cons] at hsplit
      rw [hsplit] at hs
      simpa using hs.symm
  · rintro ⟨host, domain, rfl, hhost, hdomain⟩
    obtain ⟨first, host, rfl⟩ := List.exists_cons_of_ne_nil hhost
    rw [List.cons_append, List.tail_cons, List.dropLast_append_cons,
      List.dropLast_cons_of_ne_nil hdomain]
    exact List.mem_append_right host List.mem_cons_self

/-- A text without an at sign is no address. -/
theorem mem_of_isAddress {s : List Char} (h : isAddress s) : '@' ∈ s := by
  by_contra hmem
  have hall : s.all (· != '@') := List.all_eq_true.mpr fun c hc => by
    simpa using ne_of_mem_of_not_mem hc hmem
  have hdrop := (takeWhile_run [] hall rfl).2
  rw [List.append_nil] at hdrop
  rw [isAddress, List.span_eq_takeWhile_dropWhile, hdrop, Bool.and_false] at h
  cases h

/-- An address is told from what stands before the first at sign and what stands after it. -/
theorem isAddress_append {name rest : List Char} (hname : '@' ∉ name) :
    isAddress (name ++ '@' :: rest) =
      (!(name ++ '@' :: rest).any Text.isBlank &&
        (!name.isEmpty && !rest.contains '@' && rest.tail.dropLast.contains '.')) := by
  have hall : name.all (· != '@') := List.all_eq_true.mpr fun c hc => by
    simpa using ne_of_mem_of_not_mem hc hname
  obtain ⟨htake, hdrop⟩ := takeWhile_run ('@' :: rest) hall rfl
  rw [isAddress, List.span_eq_takeWhile_dropWhile, htake, hdrop]

/-- What validation takes for an address is one. -/
theorem isAddress_iff {s : List Char} : isAddress s ↔ IsAddress s := by
  constructor
  · intro h
    obtain ⟨name, rest, rfl, hname⟩ := List.eq_append_cons_of_mem (mem_of_isAddress h)
    simp only [isAddress_append hname, Bool.and_eq_true, Bool.not_eq_true'] at h
    obtain ⟨hblank, ⟨hne, hone⟩, hdot⟩ := h
    obtain ⟨host, domain, rfl, hhost, hdomain⟩ := contains_inside_iff.mp hdot
    refine ⟨name, host, domain, rfl, by simpa using hne, hhost, hdomain, fun c hc => ⟨?_, ?_⟩⟩
    · rw [List.any_eq_false] at hblank
      have hmem : c ∈ name ++ '@' :: (host ++ '.' :: domain) := by
        simp only [List.mem_append, List.mem_cons] at hc ⊢
        tauto
      simpa using hblank c hmem
    · rintro rfl
      simp only [List.mem_append] at hc
      rcases hc with (hc | hc) | hc
      · exact hname hc
      · simp [hc] at hone
      · simp [hc] at hone
  · rintro ⟨name, host, domain, rfl, hname, hhost, hdomain, hall⟩
    have hat : '@' ∉ name ++ host ++ domain := fun hmem => (hall '@' hmem).2 rfl
    have hblank : (name ++ '@' :: (host ++ '.' :: domain)).any Text.isBlank = false := by
      rw [List.any_eq_false]
      intro c hc
      rw [Bool.not_eq_true]
      by_cases hmark : c = '@' ∨ c = '.'
      · rcases hmark with rfl | rfl <;> decide
      · refine (hall c ?_).1
        simp only [List.mem_append, List.mem_cons] at hc ⊢
        tauto
    have hdot := contains_inside_iff.mpr ⟨host, domain, rfl, hhost, hdomain⟩
    simp only [List.mem_append, not_or] at hat
    rw [isAddress_append hat.1.1, hblank, hdot]
    simp [hname, hat]

instance (s : List Char) : Decidable (IsAddress s) := decidable_of_iff _ isAddress_iff

/-! ### Checks -/

/-- A rule rejects a text: the text is shorter or longer than a limit, which is a number, or a
pattern, which can be read, matches nowhere in it. -/
def ValidationRule.Rejects (r : ValidationRule) (text : String) : Prop :=
  (r.kind = .minLength ∧ ∃ limit ∈ r.value.number?, Float.ofNat text.length < limit) ∨
  (r.kind = .maxLength ∧ ∃ limit ∈ r.value.number?, Float.ofNat text.length > limit) ∨
  (r.kind = .pattern ∧ ∃ p ∈ r.value.text?, Pattern.matches? p text = some false)

instance (r : ValidationRule) (text : String) : Decidable (r.Rejects text) :=
  inferInstanceAs (Decidable (_ ∨ _))

/-- An answer suits a field: that of an email field is an address, that of a number field a number.
-/
def Field.Suits (f : Field) (value : Option Json) : Prop :=
  (f.kind = .email → IsAddress (Text.trim (Json.asText value).toList)) ∧
  (f.kind = .number → (value.bind Json.number?).isSome)

instance (f : Field) (value : Option Json) : Decidable (f.Suits value) :=
  inferInstanceAs (Decidable (_ ∧ _))

/-- Something that an answer has to pass. -/
inductive Check where
  /-- It is given, if one is required. -/
  | required
  /-- It suits the kind of the field. -/
  | kind
  /-- A validation rule does not reject it. -/
  | rule (r : ValidationRule)
  deriving DecidableEq, Repr

/-- The checks of a field in order. -/
def Field.checks (f : Field) : List Check := .required :: .kind :: f.validationRules.map .rule

namespace Check

/-- An answer fails a check. An empty one fails none but the first. -/
def Fails (f : Field) (required : Bool) (value : Option Json) : Check → Prop
  | .required => Json.isEmptyAnswer value ∧ required
  | .kind => ¬Json.isEmptyAnswer value ∧ ¬f.Suits value
  | .rule r => ¬Json.isEmptyAnswer value ∧ r.Rejects (Json.asText value)

instance (f : Field) (required : Bool) (value : Option Json) :
    (c : Check) → Decidable (c.Fails f required value)
  | .required => inferInstanceAs (Decidable (_ ∧ _))
  | .kind => inferInstanceAs (Decidable (_ ∧ _))
  | .rule _ => inferInstanceAs (Decidable (_ ∧ _))

/-- The message of a failure. -/
def message (f : Field) : Check → String
  | .required => f.displayLabel ++ " is required"
  | .kind =>
    if f.kind = .email then f.displayLabel ++ " must be a valid email address"
    else f.displayLabel ++ " must be a number"
  | .rule r => r.failureText f

end Check

namespace ValidationRule

variable {f : Field} {r : ValidationRule} {text : String}

/-- A rule fails a text just if it rejects it. -/
theorem fails?_eq_some_true_iff : r.fails? text = some true ↔ r.Rejects text := by
  unfold fails? Rejects
  cases r.kind <;> simp [Option.map_eq_some_iff, Option.bind_eq_some_iff]

/-- What is wrong with an answer by a rule is that the rule rejects it. -/
theorem failure?_value :
    (r.failure? f text).value = if r.Rejects text then some (r.failureText f) else none := by
  simp only [← fails?_eq_some_true_iff]
  unfold failure?
  cases r.fails? text with
  | none => rfl
  | some failed => cases failed <;> rfl

/-- What is wrong with an answer by some rules is that one of them rejects it, the first that does.
-/
theorem firstFailure?_value (rules : List ValidationRule) :
    (firstFailure? f text rules).value =
      (rules.find? (·.Rejects text)).map (·.failureText f) := by
  induction rules with
  | nil => rfl
  | cons r rules ih =>
    rw [firstFailure?, Logged.value_bind, failure?_value, List.find?_cons]
    by_cases h : r.Rejects text
    · simp [h]
    · simpa [h] using ih

end ValidationRule

namespace Field

variable {f : Field} {required : Bool} {value : Option Json}

/-- What is wrong with the kind of an answer is that it does not suit the field. -/
theorem kindFailure?_eq (f : Field) (v : Json) :
    f.kindFailure? v = if f.Suits (some v) then none else some (Check.kind.message f) := by
  cases hkind : f.kind <;>
    simp [kindFailure?, Suits, Check.message, hkind, ← isAddress_iff, Json.asText]

/-- A check of a rule is a check of the text by the rule, if the answer is not empty. -/
theorem find?_map_rule (f : Field) (required : Bool) {value : Option Json}
    (hempty : Json.isEmptyAnswer value = false) (rules : List ValidationRule) :
    ((rules.map Check.rule).find? (·.Fails f required value)).map (·.message f) =
      (rules.find? (·.Rejects (Json.asText value))).map (·.failureText f) := by
  rw [List.find?_map, Option.map_map]
  congr 2
  funext r
  simp [Check.Fails, hempty]

/-- What is wrong with an answer is that it fails a check, the first that it fails. -/
theorem failure?_value (f : Field) (required : Bool) (value : Option Json) :
    (f.failure? required value).value =
      (f.checks.find? (·.Fails f required value)).map (·.message f) := by
  unfold failure? checks
  rw [List.find?_cons, List.find?_cons]
  cases hempty : Json.isEmptyAnswer value with
  | true =>
    cases required <;> simp [Check.Fails, hempty, Check.message]
  | false =>
    obtain ⟨v, rfl⟩ : ∃ v, value = some v := by
      cases value with
      | none => cases hempty
      | some v => exact ⟨v, rfl⟩
    rw [Option.bind_some, kindFailure?_eq]
    by_cases hsuits : f.Suits (some v)
    · simp [Check.Fails, hempty, hsuits, ValidationRule.firstFailure?_value,
        ← find?_map_rule f required hempty]
    · simp [Check.Fails, hempty, hsuits]

variable {f : Field} {required : Bool} {value : Option Json} {message : String}

end Field

namespace Validator

variable {fields : List Field} {states : FieldStates} {data : FormData}

end Validator

end LiveForm
