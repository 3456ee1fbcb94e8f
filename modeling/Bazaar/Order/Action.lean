import Bazaar.Order.Basic
import Bazaar.Text.Blank

/-!
# Actions on orders

The actions that move an order along its state machines. An action may change the order and raise
events before it fails; what it did up to the failure stays done, and the caller decides whether to
keep it. Actions therefore run over the order and the events raised so far, with the failure as a
separate outcome.

* Recording a checkout session needs an order awaiting payment.
* Confirming a payment moves the order to processing and the payment to completed; a late payment
  completes the payment and leaves the order where it is.
* A payment failure applies only to orders awaiting payment.
* Cancelling moves a cancellable order into one of the cancellations and refunds a captured
  payment; it answers whether stock must still be given back.
* A status update by staff does nothing for the current status, cancels for a cancellation, and
  otherwise takes one step of the status machine; delivery completes a pending payment.
* A tracking number needs a processing or shipped order and moves a processing one to shipped.
-/

namespace Bazaar

/-- An action on an order: it reads and changes the order, raises events, and may fail. -/
abbrev OrderAction := ExceptT Fault (StateM (Order × List OrderEvent))

namespace OrderAction

/-- The order as it stands. -/
def order : OrderAction Order := do
  return (← get).1

/-- Changes the order. -/
def update (f : Order → Order) : OrderAction Unit :=
  modify fun (o, es) => (f o, es)

/-- Raises an event. -/
def raise (e : OrderEvent) : OrderAction Unit :=
  modify fun (o, es) => (o, es ++ [e])

/-- Raises a checked event, or fails with its messages. -/
def raiseChecked (v : Validation OrderEvent) : OrderAction Unit :=
  match v with
  | .ok e => raise e
  | .failed ms => throw (.invalid ms)

/-- Runs an action on an order: the outcome, the order after it and the events it raised. -/
def run {α : Type} (act : OrderAction α) (o : Order) : Except Fault α × Order × List OrderEvent :=
  let (r, o', es) := Id.run (StateT.run (ExceptT.run act) (o, []))
  (r, o', es)

end OrderAction

namespace Order

open OrderAction

/-- Fails unless the status machine allows the step to `target`. -/
def assertStep (target : OrderStatus) : OrderAction Unit := do
  let o ← order
  if !o.status.canStep target then
    throw (.field "status" ("Cannot transition from " ++ o.status.name ++ " to " ++ target.name))

/-- Fails unless the payment machine allows the step to `target`. -/
def assertPaymentStep (target : PaymentStatus) : OrderAction Unit := do
  let o ← order
  if !o.paymentStatus.canStep target then
    throw (.field "payment_status"
      ("Cannot transition payment from " ++ o.paymentStatus.name ++ " to " ++ target.name))

/-- Moves the order to a status and raises the change. -/
def changeStatus (target : OrderStatus) : OrderAction Unit := do
  let o ← order
  update fun o => { o with status := target }
  raise (.statusChanged o.id o.status target)

/-- Records the checkout session opened for an order awaiting payment. -/
def recordCheckoutSession (sessionId : Json) : OrderAction Unit := do
  let o ← order
  if o.status != .pendingPayment then
    throw (.field "status" ("Checkout sessions can only be recorded for orders in " ++
      "PENDING_PAYMENT, not " ++ o.status.name))
  let s ← match Field.optional [("checkout_session_id", sessionId)] "checkout_session_id"
      (Field.text 0 (some 255)) with
    | .ok s => pure s
    | .failed ms => throw (.invalid ms)
  update fun o => { o with checkoutSessionId := s }
  raiseChecked (OrderEvent.sessionRecordedChecked o.id sessionId)

/-- Applies a successful payment: the order goes to processing, the payment to completed. -/
def confirmPayment (amount transactionId : Json) : OrderAction Unit := do
  assertStep .processing
  assertPaymentStep .completed
  update fun o => { o with paymentStatus := .completed }
  changeStatus .processing
  let o ← order
  raiseChecked (OrderEvent.paidChecked o.id o.customerId amount transactionId)

/-- Records money captured after the order left awaiting payment; the status stays. -/
def recordLatePayment (amount transactionId : Json) : OrderAction Unit := do
  assertPaymentStep .completed
  update fun o => { o with paymentStatus := .completed }
  let o ← order
  raiseChecked (OrderEvent.lateChecked o.id o.customerId o.status amount transactionId)

/-- Marks the payment of an order awaiting payment as failed. -/
def recordPaymentFailure (reason : Json) : OrderAction Unit := do
  let o ← order
  if o.status != .pendingPayment then
    throw (.field "status" ("Payment failures only apply to orders in PENDING_PAYMENT, not " ++
      o.status.name))
  if o.paymentStatus != .failed then
    assertPaymentStep .failed
    update fun o => { o with paymentStatus := .failed }
  raiseChecked (OrderEvent.failedChecked o.id o.customerId reason)

/-- The names of the cancellable statuses, sorted, as messages list them. -/
def cancellableNames : String :=
  ", ".intercalate ["PENDING_PAYMENT", "PROCESSING"]

/-- Cancels the order into `target`; answers whether its stock must still be given back. -/
def cancel (target : OrderStatus) : OrderAction Bool := do
  if !target.isCancelled then
    throw (.field "status" (target.name ++ " is not a cancellation status"))
  let o ← order
  if !o.status.isCancellable then
    throw (.field "status" ("Order cannot be cancelled while in " ++ o.status.name ++
      " status. Cancellation is only allowed from: " ++ cancellableNames))
  if o.paymentStatus.isRefundable then
    update fun o => { o with paymentStatus := .refunded }
  changeStatus target
  let o' ← order
  raise (.cancelled o.id o.customerId o.status target o'.paymentStatus)
  return !o'.stockRestored

/-- Marks the order's stock as given back, once. -/
def markStockRestored : OrderAction Unit := do
  let o ← order
  if o.stockRestored then
    throw (.field "stock_restored" "Stock for this order has already been restored")
  update fun o => { o with stockRestored := true }
  raise (.stockRestored o.id (o.items.map fun i => (i.productRef, i.quantity)))

/-- Applies a status change asked for by staff; answers whether the status changed. -/
def updateStatus (target : OrderStatus) : OrderAction Bool := do
  let o ← order
  if o.status == target then return false
  if target.isCancelled then
    let _ ← cancel target
    return true
  assertStep target
  if target == .delivered && o.paymentStatus == .pending then
    update fun o => { o with paymentStatus := .completed }
  changeStatus target
  return true

/-- Adds a tracking number, without surrounding blanks; answers whether the order was moved from
processing to shipped. -/
def addTrackingNumber (trackingNumber : Json) : OrderAction Bool := do
  let o ← order
  if !o.status.isTrackable then
    throw (.field "status" ("Tracking numbers can only be added to PROCESSING or SHIPPED orders, " ++
      "not " ++ o.status.name))
  let raw ← match trackingNumber with
    | .str s =>
      if Text.trimBlank s == "" then
        throw (.field "tracking_number" "Tracking number is required")
      else pure s
    | v =>
      if !v.truthy then throw (.field "tracking_number" "Tracking number is required")
      else throw .missingAttribute
  let t ← match Field.text 0 (some 100) (.str (Text.trimBlank raw)) with
    | .ok t => pure t
    | .error m => throw (.field "tracking_number" m)
  update fun o => { o with trackingNumber := some t }
  let advanced := o.status == .processing
  if advanced then changeStatus .shipped
  let o' ← order
  raise (.trackingNumberAdded o.id t o'.status)
  return advanced

/-- Whether a completed payment was already applied: the order has left awaiting payment. -/
def isDuplicatePaymentConfirmation (o : Order) : Bool :=
  o.paymentStatus == .completed && o.status != .pendingPayment

/-- Whether the order belongs to a customer, comparing texts. -/
def isOwnedBy (o : Order) (customer : Json) : Bool :=
  o.customerId == customer.display

end Order

end Bazaar
