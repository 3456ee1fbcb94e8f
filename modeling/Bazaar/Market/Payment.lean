import Bazaar.Market.Fulfilment
import Bazaar.Webhook.Event
import Bazaar.Webhook.Signature

/-!
# Paying for orders

A customer pays through a checkout session opened at the gateway. The order is read and checked
first (it belongs to the customer, is awaiting payment and has lines), then the gateway is called
once outside any unit of work, and only then is the session recorded on the order in a short unit
of work of its own. A gateway failure leaves the order untouched.

The gateway reports back through signed webhooks. A body whose signature does not check or that is
no event is refused; anything after that is acknowledged with a receipt, so the gateway does not
send again an event that can never succeed. Each event becomes one command run in a unit of work:
a completed checkout confirms the payment (or records it late), a failed payment marks the order,
and a refund is recorded. Each handler is idempotent: a replayed event finds the order already past
the state it would move it to, or a payment record for the same transaction, and answers
`duplicate` without writing.
-/

namespace Bazaar

/-- A checkout session opened at the gateway: its identifier and where the customer pays. -/
structure CheckoutSession where
  sessionId : String
  checkoutUrl : String

/-- The receipt of a webhook: what became of it, the kind of event and the order it names. -/
structure Receipt where
  status : String
  eventType : String
  orderId : Option String

namespace Market

/-- Refuses an order that cannot be paid: already paid, cancelled, not awaiting payment, or
without lines. -/
def ensurePayable (o : Order) : MarketM Unit := do
  if o.paymentStatus == .completed then
    fail (.field "payment_status" ("Order " ++ o.id ++ " has already been paid"))
  if o.status.isCancelled then
    fail (.field "status" ("Order " ++ o.id ++ " has been cancelled (" ++ o.status.name ++ ")"))
  if o.status != .pendingPayment then
    fail (.field "status" ("Order " ++ o.id ++ " is not awaiting payment (status " ++
      o.status.name ++ ")"))
  if o.items.isEmpty then fail (.field "items" ("Order " ++ o.id ++ " has no items"))

/-- Asks the gateway for a session; the call is recorded whether or not the gateway opens one. -/
def openSession (call : GatewayCall) : MarketM CheckoutSession := do
  let m ← get
  set { m with gateway := { m.gateway with calls := m.gateway.calls ++ [call] } }
  if !m.gateway.succeeds then
    fail (.paymentSession "Payment session could not be created. Please try again later.")
  let n := m.sessionsIssued + 1
  modify fun m => { m with sessionsIssued := n }
  let sessionId := (Generated.session n).token
  return ⟨sessionId, "https://checkout.fake-gateway.test/pay/" ++ sessionId⟩

/-- Records a session on an order, as one unit of work. -/
def recordSession (orderId : String) (sessionId : String) : MarketM Unit :=
  unitOfWork do
    let o ← getOrder orderId
    let ((), o) ← onOrder o (Order.recordCheckoutSession (.str sessionId))
    putOrder o

/-- Opens a checkout session for an order of the requester. -/
def createSession (orderId requester : String) (successUrl cancelUrl : Json) :
    MarketM CheckoutSession := do
  let s ← currentSettings
  let o ← getOrder orderId
  ensureOwner o requester
  ensurePayable o
  let currency ← if o.currency.isEmpty then
      match s.currency with
      | .str c => pure (Text.toLower c)
      | _ => fail .missingAttribute
    else pure (Text.toLower o.currency)
  let amount ← lift (Money.toMinorUnits (← lift (Money.decimalOfFloat o.final)) currency)
  let session ← openSession {
    amountMinor := amount, currency,
    successUrl := if successUrl.truthy then successUrl else s.checkoutSuccessUrl,
    cancelUrl := if cancelUrl.truthy then cancelUrl else s.checkoutCancelUrl,
    metadata := [("order_id", o.id), ("customer_id", o.customerId)],
    description := "Order #" ++ o.id }
  recordSession o.id session.sessionId
  return session

/-- Whether a payment record with an outcome exists for a transaction; an empty reference has
none. -/
def hasPayment (transactionId : String) (outcome : PaymentOutcome) : MarketM Bool := do
  if transactionId.isEmpty then return false
  return (← records).payments.any fun p =>
    p.transactionId == some transactionId && p.outcome.name == outcome.name

/-- Stores a payment record. -/
def putPayment (p : Payment) : MarketM Unit :=
  updateStore fun s => { s with payments := s.payments ++ [p] }

/-- Empties the customer's cart after a payment, if they have a non-empty one. -/
def clearCartAfterPayment (customerId : String) : MarketM Unit := do
  match ← findCart customerId with
  | some c =>
    let (c', removed) := c.clear
    if removed != 0 then putCart c'
  | none => pure ()

/-- A text field of a command that may be left out, or else the fallback. -/
def orElse (given : Option String) (fallback : String) : String :=
  match given with
  | some s => if s.isEmpty then fallback else s
  | none => fallback

/-- A completed checkout as a command. -/
structure ConfirmCheckout where
  orderId : String
  sessionId : String
  paymentIntentId : Option String
  amount : Float
  currency : Option String
  gatewayResponse : String

/-- A failed payment as a command. -/
structure RecordFailedPayment where
  orderId : String
  paymentIntentId : String
  reason : Option String
  amount : Float
  currency : Option String
  gatewayResponse : String

/-- A refunded charge as a command. -/
structure RecordChargeRefund where
  orderId : String
  chargeId : String
  amountRefunded : Float
  currency : Option String
  gatewayResponse : String

/-- The command of a completed checkout, checked as its fields require. -/
def ConfirmCheckout.ofEvent (orderId : String) (e : Webhook.CheckoutCompleted) :
    Except Fault ConfirmCheckout :=
  let given : Field.Given := [("session_id", e.sessionId), ("payment_intent_id", e.paymentIntentId),
    ("currency", .str e.currency)]
  ((fun s p c => ConfirmCheckout.mk orderId s p e.amount c (Json.standardText (.obj e.raw)))
    <$> Field.required given "session_id" (Field.text 1 (some 255))
    <*> Field.optional given "payment_intent_id" (Field.text 0 (some 255))
    <*> Field.optional given "currency" (Field.text 0 (some 3))).toExcept

/-- The command of a failed payment, checked as its fields require. -/
def RecordFailedPayment.ofEvent (orderId : String) (e : Webhook.PaymentFailed) :
    Except Fault RecordFailedPayment :=
  let given : Field.Given := [("payment_intent_id", e.paymentIntentId), ("reason", e.reason),
    ("currency", .str e.currency)]
  ((fun p r c => RecordFailedPayment.mk orderId p r e.amount c (Json.standardText (.obj e.raw)))
    <$> Field.required given "payment_intent_id" (Field.text 1 (some 255))
    <*> Field.optional given "reason" (Field.text 0 (some 500))
    <*> Field.optional given "currency" (Field.text 0 (some 3))).toExcept

/-- The command of a refunded charge, checked as its fields require. -/
def RecordChargeRefund.ofEvent (orderId : String) (e : Webhook.ChargeRefunded) :
    Except Fault RecordChargeRefund :=
  let given : Field.Given := [("charge_id", e.chargeId), ("currency", .str e.currency)]
  ((fun ch c => RecordChargeRefund.mk orderId ch e.amountRefunded c
      (Json.standardText (.obj e.raw)))
    <$> Field.required given "charge_id" (Field.text 1 (some 255))
    <*> Field.optional given "currency" (Field.text 0 (some 3))).toExcept

/-- Applies a completed checkout: confirms the payment of an order awaiting it, or records it
late; records the payment, and unless the order was cancelled, empties the customer's cart and
tells them. -/
def confirmCheckout (c : ConfirmCheckout) : MarketM String := do
  let o ← getOrder c.orderId
  let transactionId := orElse c.paymentIntentId c.sessionId
  if o.isDuplicatePaymentConfirmation || (← hasPayment transactionId .completed) then
    return "duplicate"
  let amount ← lift (Money.roundFloat (if c.amount != 0.0 then c.amount else o.final))
  let act := if o.status == .pendingPayment then
      Order.confirmPayment (.float amount) (.str transactionId)
    else Order.recordLatePayment (.float amount) (.str transactionId)
  let ((), o) ← onOrder o act
  putOrder o
  let currency := Json.str (orElse c.currency o.currency)
  putPayment (← lift (Payment.record o.id o.customerId amount currency .completed
    (.str transactionId) .null (.str c.gatewayResponse)))
  if o.status.isCancelled then return "processed"
  clearCartAfterPayment o.customerId
  notify o.customerId ("Payment received for order #" ++ o.id ++
    ". Your order is confirmed and being processed.") (orderLink o)
  return "processed"

/-- Applies a failed payment to an order still awaiting payment, records it and tells the
customer. -/
def recordFailedPayment (c : RecordFailedPayment) : MarketM String := do
  let o ← getOrder c.orderId
  if o.status != .pendingPayment then return "ignored"
  if ← hasPayment c.paymentIntentId .failed then return "duplicate"
  let reason := orElse c.reason "Payment failed"
  let ((), o) ← onOrder o (Order.recordPaymentFailure (.str reason))
  putOrder o
  let amount ← lift (Money.roundFloat (if c.amount != 0.0 then c.amount else o.final))
  let currency := Json.str (orElse c.currency o.currency)
  putPayment (← lift (Payment.record o.id o.customerId amount currency .failed
    (.str c.paymentIntentId) (.str reason) (.str c.gatewayResponse)))
  notify o.customerId ("Payment for order #" ++ o.id ++ " failed: " ++ reason ++
    ". You can retry the payment from your order page.") (orderLink o)
  return "processed"

/-- Records a refunded charge of an order. -/
def recordChargeRefund (c : RecordChargeRefund) : MarketM String := do
  let o ← getOrder c.orderId
  if ← hasPayment c.chargeId .refunded then return "duplicate"
  let amount ← lift (Money.roundFloat c.amountRefunded)
  putPayment (← lift (Payment.record o.id o.customerId amount (.str (orElse c.currency o.currency))
    .refunded (.str c.chargeId) .null (.str c.gatewayResponse)))
  return "processed"

/-- Builds and runs the command of an event in a unit of work; answers its outcome. -/
def reconcile (orderId : String) : Webhook.Event → MarketM String
  | .checkoutCompleted e => do
    let c ← lift (ConfirmCheckout.ofEvent orderId e)
    unitOfWork (confirmCheckout c)
  | .paymentFailed e => do
    let c ← lift (RecordFailedPayment.ofEvent orderId e)
    unitOfWork (recordFailedPayment c)
  | .chargeRefunded e => do
    let c ← lift (RecordChargeRefund.ofEvent orderId e)
    unitOfWork (recordChargeRefund c)
  | .unhandled _ _ _ => pure "ignored"

/-- Receives a webhook: checks its signature, decodes its event and reconciles it. A missing
order is ignored and any other failure after decoding is acknowledged as an error. -/
def receiveWebhook (body : List UInt8) (signature : String) : MarketM Receipt := do
  let m ← get
  lift (Webhook.verify body signature m.gateway.webhookSecret m.gateway.tolerance m.clock)
  let ev ← lift (Webhook.decode body)
  match ev with
  | .unhandled _ t o => return ⟨"ignored", t, o⟩
  | _ =>
    match ev.orderId with
    | none => return ⟨"ignored", ev.eventType, none⟩
    | some orderId =>
      if orderId.isEmpty then return ⟨"ignored", ev.eventType, none⟩
      let status ← tryCatch (reconcile orderId ev) fun
        | .notFound _ => pure "ignored"
        | _ => pure "error"
      return ⟨status, ev.eventType, some orderId⟩

end Market

end Bazaar
