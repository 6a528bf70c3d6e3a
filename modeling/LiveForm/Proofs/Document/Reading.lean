import LiveForm.Document.Codec
import LiveForm.Proofs.Json.Decoding

/-!
# Documents read back

Reading brings a document into one form: what was read from a value, in whichever of the accepted
spellings, is written so that it reads back as the same document. Records are read back part by
part, so each has to be shown only what its parts were read from.
-/

namespace LiveForm

open Json (Format Reads ReadsBack)

/-! ### Rules -/

/-- A combination of conditions is read back. -/
@[simp] theorem ConditionLogic.ofJson?_name (l : ConditionLogic) :
    ofJson? (.text l.name) = some l := by
  cases l <;> rfl

/-- A condition is read back. -/
theorem Condition.readsBack : ReadsBack ofJson? ofJson? toJson := by
  rintro c ⟨v, hfinite, h⟩
  have h := Json.read_of_record? h
  simp only [Option.bind_eq_bind, Option.bind_eq_some_iff] at h
  obtain ⟨id, -, fieldId, -, operator, -, value, hvalue, hc⟩ := h
  cases hc
  have hvalue := Json.one?_entryOf_free "value" hfinite hvalue
  simp [ofJson?, toJson, Json.record?, Json.isRecord, Json.part?_object, Json.text?,
    Operator.ofJson?, Json.member?, hvalue]

/-- An action is read back. -/
theorem Action.readsBack : ReadsBack ofJson? ofJson? toJson := by
  rintro a ⟨v, hfinite, h⟩
  have h := Json.read_of_record? h
  simp only [Option.bind_eq_bind, Option.bind_eq_some_iff] at h
  obtain ⟨id, -, kind, -, target, -, value, hvalue, calculation, -, message, -, ha⟩ := h
  cases ha
  have hvalue := Json.one?_entryOf_free "value" hfinite hvalue
  simp [ofJson?, toJson, Json.record?, Json.isRecord, Json.part?_object, Json.text?,
    ActionKind.ofJson?, Json.member?, hvalue]

/-- A rule is read back, also under another id. -/
theorem Rule.ofJson?_toJson {r : Rule} (h : Reads ofJson? r) (id : String) :
    ofJson? { r with id }.toJson = some { r with id } := by
  obtain ⟨v, hfinite, h⟩ := h
  have h := Json.read_of_record? h
  simp only [Option.bind_eq_bind, Option.bind_eq_some_iff] at h
  obtain ⟨_, -, name, -, description, -, enabled, -, conditions, hconditions, h⟩ := h
  obtain ⟨logic, -, actions, hactions, priority, hpriority, hr⟩ := h
  cases hr
  have hconditions := Condition.readsBack.listOf.part (by simp [Json.listOf?]) hfinite hconditions
  have hactions := Action.readsBack.listOf.part (by simp [Json.listOf?]) hfinite hactions
  have hpriority := Json.readsBack_int.part (by decide) hfinite hpriority
  simp [ofJson?, toJson, Json.record?, Json.isRecord, Json.part?_object, Json.text?,
    Json.bool?, hconditions, hactions, hpriority]

/-- The rules of a form are read back from a list, also those that were read under keys. -/
theorem Rule.readsBack_list :
    ReadsBack listOfJson? listOfJson? fun rules => .list (rules.map toJson) := by
  rintro rules ⟨v, hfinite, h⟩
  have hrules : ∀ r ∈ rules, ofJson? r.toJson = some r := by
    intro r hr
    unfold listOfJson? at h
    split at h
    · have hreads := Json.reads_of_listOf? hfinite h r hr
      exact ofJson?_toJson hreads r.id
    · obtain ⟨m, hm, rfl⟩ := Option.map_eq_some_iff.mp h
      obtain ⟨e, he, rfl⟩ := List.mem_map.mp hr
      have hreads := Json.reads_of_mapOf? hfinite hm e he
      unfold withId
      split
      · exact ofJson?_toJson hreads e.1
      · exact ofJson?_toJson hreads e.2.id
  rw [listOfJson?, Json.listOf?_map (g := fun r => r) hrules, List.map_id']

/-- The switches of a form are read back. -/
theorem GlobalSettings.ofJson?_toJson (format : Format) (s : GlobalSettings) :
    ofJson? format s.toJson = some s := by
  simp [ofJson?, toJson, Json.record?, Json.isRecord, Json.part?_object, Json.bool?]

/-- A rule set is read back. -/
theorem RuleSet.readsBack (format format' : Format) :
    ReadsBack (ofJson? format) (ofJson? format') toJson := by
  rintro s ⟨v, hfinite, h⟩
  have h := Json.read_of_record? h
  simp only [Option.bind_eq_bind, Option.bind_eq_some_iff] at h
  obtain ⟨rules, hrules, settings, -, hs⟩ := h
  cases hs
  have hrules := Rule.readsBack_list.part (by simp [Rule.listOfJson?, Json.listOf?]) hfinite hrules
  simp [ofJson?, toJson, Json.record?, Json.isRecord, Json.part?_object, hrules,
    GlobalSettings.ofJson?_toJson]

/-! ### Fields -/

/-- A validation rule is read back. -/
theorem ValidationRule.readsBack (format format' : Format) :
    ReadsBack (ofJson? format) (ofJson? format') toJson := by
  rintro r ⟨v, hfinite, h⟩
  have h := Json.read_of_record? h
  simp only [Option.bind_eq_bind, Option.bind_eq_some_iff] at h
  obtain ⟨kind, -, value, hvalue, message, -, hr⟩ := h
  cases hr
  have hvalue := Json.readsBack_free.part (by simp [Json.free?, Json.canonical]) hfinite hvalue
  simp [ofJson?, toJson, Json.record?, Json.isRecord, Json.part?_object, Json.text?,
    CheckKind.ofJson?, Json.member?, hvalue]

/-- A field is read back. -/
theorem Field.readsBack (format format' : Format) :
    ReadsBack (ofJson? format) (ofJson? format') toJson := by
  rintro f ⟨v, hfinite, h⟩
  have h := Json.read_of_record? h
  simp only [Option.bind_eq_bind, Option.bind_eq_some_iff] at h
  obtain ⟨id, -, label, -, kind, -, required, -, hidden, -, options, -, h⟩ := h
  obtain ⟨placeholder, -, calculation, -, checks, hchecks, text, -, default, hdefault, hf⟩ := h
  cases hf
  have hchecks := (ValidationRule.readsBack format format').listOf.part (by simp [Json.listOf?])
    hfinite hchecks
  have hdefault := Json.one?_entryOf_free "default_value" hfinite hdefault
  simp [ofJson?, toJson, Json.record?, Json.isRecord, Json.part?_object, Json.text?,
    Json.bool?, FieldKind.ofJson?, Json.member?, hchecks, hdefault]

/-! ### Documents -/

/-- The description of a form is read back. -/
theorem FormMeta.ofJson?_toJson (format : Format) (m : FormMeta) :
    ofJson? format m.toJson = some m := by
  simp [ofJson?, toJson, Json.record?, Json.isRecord, Json.part?_object, Json.text?]

/-- **A document that was read is written so that it is read back as it is.** The value may use any
of the accepted spellings, and the two readers may be of different text formats. -/
theorem Document.ofJson?_toJson_of_ofJson? {format : Format} {v : Json} {d : Document}
    (hfinite : v.isFinite) (h : ofJson? format v = some d) (format' : Format) :
    ofJson? format' d.toJson = some d := by
  have h := Json.read_of_record? h
  simp only [Option.bind_eq_bind, Option.bind_eq_some_iff] at h
  obtain ⟨form, -, fields, hfields, logic, hlogic, hd⟩ := h
  cases hd
  have hempty : RuleSet.ofJson? format' ({} : RuleSet).toJson = some {} :=
    RuleSet.readsBack .json format' ⟨.object [], rfl, rfl⟩
  have hfields := (Field.readsBack format format').listOf.part (by simp [Json.listOf?])
    hfinite hfields
  have hlogic := (RuleSet.readsBack format format').part (by simp [hempty]) hfinite hlogic
  simp [ofJson?, toJson, Json.record?, Json.isRecord, Json.part?_object, hfields, hlogic,
    FormMeta.ofJson?_toJson]

/-- A survey in older spellings: keys in camel case, rules keyed by id, a condition as a list, kinds
that are not known or stand as keys, and much left out. -/
def Sample.survey : Json :=
  .object [
    ("form", .list [.text "survey"]),
    ("fields", .list [
      .object [("id", .text "score"), ("type", .object [("number", .null)]),
        ("defaultValue", .object [("b", .float 1.5), ("a", .null)])],
      .object [("id", .text "reason"), ("type", .text "signature"), ("defaultHidden", .bool true),
        ("placeholder", .null), ("validationRules", .list [.object [("type", .text "odd")]])]]),
    ("conditionalLogic", .object [
      ("rules", .object [
        ("second", .object [("conditionLogic", .text "or"), ("actions", .list [
          .object [("type", .text "show"), ("targetFieldId", .text "reason")]])]),
        ("first", .object [("conditions", .list [
          .list [.text "low", .text "score", .text "at_most"]])])]),
      ("globalSettings", .list [.bool true])])]

/-- The survey as a document. -/
def Sample.surveyDocument : Document where
  form := { id := "survey" }
  fields := [
    { id := "score", label := "", kind := .number,
      defaultValue := some (.object [("a", .null), ("b", .float 1.5)]) },
    { id := "reason", label := "", kind := .other, defaultHidden := true,
      validationRules := [{ kind := .unknown }] }]
  logic := {
    rules := [
      { id := "first",
        conditions := [{ id := "low", fieldId := "score", operator := .unknown }] },
      { id := "second", conditionLogic := .any, actions := [.targeting .show "reason"] }]
    globalSettings := { enableAnimations := true } }

/-- The survey is read as this document, and so is what it is written as. -/
theorem Document.ofJson?_toJson_of_ofJson?_survey :
    Sample.survey.isFinite ∧
    ofJson? .json Sample.survey = some Sample.surveyDocument ∧
    ofJson? .json Sample.surveyDocument.toJson = some Sample.surveyDocument := by
  have hfinite : Sample.survey.isFinite := by decide +kernel
  have hread : ofJson? .json Sample.survey = some Sample.surveyDocument := by decide +kernel
  exact ⟨hfinite, hread, ofJson?_toJson_of_ofJson? hfinite hread .json⟩

end LiveForm
