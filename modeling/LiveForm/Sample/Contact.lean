import LiveForm.Document

/-!
# A contact form

Routes inquiries and asks for further details by kind of inquiry.
-/

namespace LiveForm.Sample

/-- Sales leads name their company. -/
def salesCompany : Rule where
  id := "sales-company"
  name := "Sales leads name their company"
  priority := 10
  conditions := [
    { fieldId := "inquiry_type", operator := .equals, value := some (.text "Sales") }]
  actions := [.targeting .show "company", .targeting .require "company"]

/-- Support requests may give a ticket. -/
def supportTicket : Rule where
  id := "support-ticket"
  name := "Support requests may reference a ticket"
  priority := 10
  conditions := [
    { fieldId := "inquiry_type", operator := .equals, value := some (.text "Support") }]
  actions := [.targeting .show "ticket_number"]

/-- The fields of the contact form. -/
def contactFields : List Field := [
  { id := "name", label := "Name", kind := .text, required := true },
  { id := "email", label := "Email", kind := .email, required := true,
    placeholder := some "you@example.com" },
  { id := "inquiry_type", label := "Inquiry type", kind := .select, required := true,
    options := ["General", "Sales", "Support"] },
  { id := "company", label := "Company", kind := .text, defaultHidden := true },
  { id := "ticket_number", label := "Ticket number", kind := .text, defaultHidden := true,
    placeholder := some "T-0000",
    validationRules := [
      { kind := .pattern, value := .text "^T-\\d{4}$",
        message := "Ticket numbers look like T-1234" }] },
  { id := "message", label := "Message", kind := .textarea, required := true,
    validationRules := [
      { kind := .minLength, value := .int 10 },
      { kind := .maxLength, value := .int 500,
        message := "Please keep it under 500 characters" }] }]

/-- The contact form. -/
def contact : Document where
  form := {
    id := "contact", title := "Contact us",
    description := "General, sales, and support inquiries" }
  fields := contactFields
  logic := { rules := [salesCompany, supportTicket] }

end LiveForm.Sample
