import LiveForm.Document

/-!
# A registration form

Offers tickets by kind of attendee. A later rule takes back what an earlier one offers, and hints
tell the renderer what to show.
-/

namespace LiveForm.Sample

/-- The condition that a field has a text as its answer. -/
def answered (fieldId text : String) : Condition where
  fieldId := fieldId
  operator := .equals
  value := some (.text text)

/-- The condition that the dietary requirements mention a text. -/
def dietMentions (text : String) : Condition where
  fieldId := "dietary"
  operator := .contains
  value := some (.text text)

/-- Offers one ticket only, and chooses it. -/
def onlyTicket (ticket : String) : List Action := [
  { kind := .setOptions, targetFieldId := some "ticket", value := some (.list [.text ticket]) },
  { kind := .setValue, targetFieldId := some "ticket", value := some (.text ticket) }]

/-- Shows a text. -/
def announcement (text : String) : Action where
  kind := .showMessage
  message := some text

/-- Shows a field and requires an answer. -/
def ask (fieldId : String) : List Action :=
  [.targeting .show fieldId, .targeting .require fieldId]

/-- Students get the student ticket. -/
def studentTicket : Rule where
  id := "student-ticket"
  name := "Students get the student ticket"
  priority := 10
  conditions := [answered "attendee_type" "Student"]
  actions := ask "student_id" ++ onlyTicket "Student"

/-- Speakers pick a track and skip payment. -/
def speakerDetails : Rule where
  id := "speaker-details"
  name := "Speakers pick a track and skip payment"
  priority := 10
  conditions := [answered "attendee_type" "Speaker"]
  actions :=
    ask "session_track" ++ onlyTicket "Speaker pass" ++
      [{ kind := .skipTo, value := some (.text "speaker-details") },
        announcement "Speakers register for free"]

/-- Professionals may join a workshop. -/
def professionalTrack : Rule where
  id := "professional-track"
  name := "Professionals may join a workshop"
  priority := 10
  conditions := [answered "attendee_type" "Professional"]
  actions := [.targeting .show "session_track"]

/-- Workshops are full for standard tickets. -/
def standardTracksFull : Rule where
  id := "standard-tracks-full"
  name := "Workshops are full for standard tickets"
  priority := 20
  conditions := [answered "attendee_type" "Professional", answered "ticket" "Standard"]
  actions := [
    .targeting .hide "session_track",
    announcement "Workshop tracks are full for standard tickets"]

/-- Speaker passes need a bio. -/
def speakerBio : Rule where
  id := "speaker-bio"
  name := "Speaker passes need a bio"
  priority := 30
  conditions := [answered "attendee_type" "Speaker", answered "ticket" "Speaker pass"]
  actions := ask "bio"

/-- Follow up on allergies. -/
def allergyFollowUp : Rule where
  id := "allergy-follow-up"
  name := "Follow up on allergies"
  priority := 30
  conditionLogic := .any
  conditions := [dietMentions "allerg", dietMentions "nut"]
  actions := [announcement "We will contact you about your allergy"]

/-- The fields of the registration form. -/
def registrationFields : List Field := [
  { id := "attendee_type", label := "I am attending as", kind := .radio, required := true,
    options := ["Student", "Professional", "Speaker"] },
  { id := "student_id", label := "Student ID", kind := .text, defaultHidden := true,
    validationRules := [{ kind := .minLength, value := .int 6 }] },
  { id := "ticket", label := "Ticket", kind := .select, required := true,
    options := ["Standard", "VIP"] },
  { id := "session_track", label := "Workshop track", kind := .select, defaultHidden := true,
    options := ["Systems", "Web", "Embedded"] },
  { id := "bio", label := "Speaker bio", kind := .textarea, defaultHidden := true },
  { id := "dietary", label := "Dietary requirements", kind := .text }]

/-- The registration form. -/
def registration : Document where
  form := { id := "registration", title := "Conference registration" }
  fields := registrationFields
  logic := {
    rules := [
      studentTicket, speakerDetails, professionalTrack, standardTracksFull, speakerBio,
      allergyFollowUp]
    globalSettings := { debugMode := true } }

end LiveForm.Sample
