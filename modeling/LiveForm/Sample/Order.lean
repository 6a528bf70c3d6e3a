import LiveForm.Document

/-!
# An order form

Calculates a subtotal and a total, ships bulk orders for free, and asks for the approval of large
orders.
-/

namespace LiveForm.Sample

/-- Bulk orders ship free. -/
def bulkShipping : Rule where
  id := "bulk-shipping"
  name := "Bulk orders ship free"
  priority := 10
  conditions := [{ fieldId := "qty", operator := .greaterThan, value := some (.int 9) }]
  actions := [
    { kind := .setValue, targetFieldId := some "shipping", value := some (.int 0) },
    .targeting .disable "shipping",
    { kind := .showMessage, message := some "Orders of 10 or more ship free" }]

/-- Large orders need approval and take no coupons. -/
def largeOrderApproval : Rule where
  id := "large-order-approval"
  name := "Large orders need approval and take no coupons"
  priority := 20
  conditions := [{ fieldId := "total", operator := .greaterThan, value := some (.int 100) }]
  actions := [
    .targeting .show "approval",
    .targeting .require "approval",
    .targeting .hide "coupon",
    { kind := .showMessage, message := some "Orders over 100 need an approval code" }]

/-- The fields of the order form. -/
def orderFields : List Field := [
  { id := "qty", label := "Quantity", kind := .number, required := true,
    defaultValue := some (.int 1) },
  { id := "price", label := "Unit price", kind := .number, required := true },
  { id := "shipping", label := "Shipping", kind := .number, defaultValue := some (.int 5) },
  { id := "subtotal", label := "Subtotal", kind := .calculated,
    calculation := some "qty * price" },
  { id := "total", label := "Total", kind := .calculated,
    calculation := some "subtotal + shipping" },
  { id := "coupon", label := "Coupon code", kind := .text },
  { id := "approval", label := "Approval code", kind := .text, defaultHidden := true },
  { id := "pricing_note", label := "Note", kind := .display,
    displayText := some "Prices include VAT." }]

/-- The order form. -/
def order : Document where
  form := { id := "order", title := "Place an order" }
  fields := orderFields
  logic := { rules := [bulkShipping, largeOrderApproval] }

end LiveForm.Sample
