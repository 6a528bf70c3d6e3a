import LiveForm.Sample.Contact
import LiveForm.Sample.Order
import LiveForm.Sample.Registration
import LiveForm.Scenario

/-!
# The catalog of scenarios

Three scenarios over the sample forms: answers that are hidden again, calculated totals, and rules
that override each other.
-/

namespace LiveForm.Scenario

/-- A company is asked of sales leads only, and left out of the submission when it is hidden again
after it was filled in. -/
def inquiryRouting : Scenario where
  title := "Scenario 1: Inquiry Routing"
  traceId := "inquiry-routing"
  document := Sample.contact
  shown := ["inquiry_type", "company", "ticket_number"]
  steps := [
    .say "  Step A: initial render",
    .showFields,
    .say "",
    .say "  Step B: inquiry_type = \"Sales\"",
    .enter "name" "Ada Lovelace",
    .enter "email" "ada@example.com",
    .enter "message" "We would like a quote for 40 seats.",
    .enter "inquiry_type" "Sales",
    .showFields,
    .submit,
    .say "",
    .say "  Step C: company = \"Analytical Engines Ltd\", then inquiry_type = \"General\"",
    .enter "company" "Analytical Engines Ltd",
    .enter "inquiry_type" "General",
    .showFields,
    .submitWithout "company"]

/-- Totals follow what is entered, numbers or not; bulk orders ship for free, and large orders need
an approval. -/
def orderTotal : Scenario where
  title := "Scenario 2: Order Total"
  traceId := "order-total"
  document := Sample.order
  shown := ["qty", "price", "shipping", "subtotal", "total", "coupon", "approval"]
  steps := [
    .say "  Step A: initial render (qty defaults to 1, no price yet)",
    .showFields,
    .say "",
    .say "  Step B: qty = \"3\", price = \"9.5\", coupon = \"SPRING\"",
    .enter "coupon" "SPRING",
    .enter "qty" "3",
    .enter "price" "9.5",
    .showFields,
    .say "",
    .say "  Step C: qty = \"abc\"",
    .enter "qty" "abc",
    .showFields,
    .submit,
    .say "",
    .say "  Step D: qty = \"12\" (bulk order)",
    .enter "qty" "12",
    .showFields,
    .showHints,
    .submit,
    .say "",
    .say "  Step E: approval = \"MGR-7\"",
    .enter "approval" "MGR-7",
    .showFields,
    .submit]

/-- The kind of attendee decides what is offered, and a rule of higher priority takes the track back
from standard tickets. -/
def eventRegistration : Scenario where
  title := "Scenario 3: Event Registration"
  traceId := "event-registration"
  document := Sample.registration
  shown := ["attendee_type", "student_id", "ticket", "session_track", "bio"]
  steps := [
    .say "  Step A: attendee_type = \"Student\"",
    .enter "attendee_type" "Student",
    .showFields,
    .showOptions "ticket",
    .say "",
    .say "  Step B: attendee_type = \"Professional\", ticket = \"Standard\"",
    .enter "attendee_type" "Professional",
    .enter "ticket" "Standard",
    .showFields,
    .showFiredRules,
    .showHints,
    .say "",
    .say "  Step C: ticket = \"VIP\", session_track = \"Systems\", then ticket = \"Standard\"",
    .enter "ticket" "VIP",
    .showFields,
    .enter "session_track" "Systems",
    .enter "ticket" "Standard",
    .showFields,
    .submit,
    .say "",
    .say "  Step D: attendee_type = \"Speaker\", dietary = \"peanut allergy\"",
    .enter "attendee_type" "Speaker",
    .enter "dietary" "peanut allergy",
    .showFields,
    .showHints,
    .submit]

/-- All scenarios in order. -/
def all : List Scenario := [inquiryRouting, orderTotal, eventRegistration]

end LiveForm.Scenario
