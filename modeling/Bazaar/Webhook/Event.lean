import Bazaar.Json.Document
import Bazaar.Json.Coerce
import Bazaar.Money

/-!
# Webhook events

A gateway event is a JSON object `{"id", "type", "data": {"object": {…}}}`. Three types move an
order: a completed checkout session, a failed payment and a refunded charge; every other type is
acknowledged without effect. The order an event belongs to is named in the object's metadata, or
else in the metadata of its expanded payment intent. Amounts arrive as integers in minor units.
-/

namespace Bazaar

namespace Webhook

/-- A checkout session was paid. -/
structure CheckoutCompleted where
  eventId : String
  orderId : Option String
  sessionId : Json
  paymentIntentId : Json
  amount : Float
  currency : String
  raw : List (String × Json)

/-- A payment attempt failed. -/
structure PaymentFailed where
  eventId : String
  orderId : Option String
  paymentIntentId : Json
  reason : Json
  amount : Float
  currency : String
  raw : List (String × Json)

/-- A charge was refunded. -/
structure ChargeRefunded where
  eventId : String
  orderId : Option String
  chargeId : Json
  paymentIntentId : Json
  amountRefunded : Float
  currency : String
  raw : List (String × Json)

/-- A decoded webhook event. -/
inductive Event where
  | checkoutCompleted (e : CheckoutCompleted)
  | paymentFailed (e : PaymentFailed)
  | chargeRefunded (e : ChargeRefunded)
  | unhandled (eventId : String) (eventType : String) (orderId : Option String)

/-- The type names of the handled events. -/
def checkoutCompletedType : String := "checkout.session.completed"
def paymentFailedType : String := "payment_intent.payment_failed"
def chargeRefundedType : String := "charge.refunded"

namespace Event

/-- The type name of an event. -/
def eventType : Event → String
  | checkoutCompleted _ => checkoutCompletedType
  | paymentFailed _ => paymentFailedType
  | chargeRefunded _ => chargeRefundedType
  | unhandled _ t _ => t

/-- The order an event names, if any. -/
def orderId : Event → Option String
  | checkoutCompleted e => e.orderId
  | paymentFailed e => e.orderId
  | chargeRefunded e => e.orderId
  | unhandled _ _ o => o

end Event

/-- A refusal of the shape of an event. -/
def payloadError (msg : String) : Fault :=
  .webhookPayload msg

/-- The nested object under `key`: an empty object when absent or null, refused when it is
something else. -/
def nestedObject (obj : List (String × Json)) (key : String) :
    Except Fault (List (String × Json)) :=
  match obj.lookup key with
  | none | some .null => .ok []
  | some (.obj fields) => .ok fields
  | some _ => .error (payloadError ("Field '" ++ key ++ "' must be a JSON object"))

/-- The order id from the object's metadata, else from its expanded payment intent's metadata:
the display text of a true value. -/
def metadataOrderId (obj : List (String × Json)) : Except Fault (Option String) := do
  let metadata ← nestedObject obj "metadata"
  match metadata.lookup "order_id" with
  | some v => if v.truthy then return some v.display else pure ()
  | none => pure ()
  match obj.lookup "payment_intent" with
  | some (.obj intent) =>
    let intentMetadata ← nestedObject intent "metadata"
    match intentMetadata.lookup "order_id" with
    | some v => if v.truthy then return some v.display else return none
    | none => return none
  | _ => return none

/-- The id of a payment intent: the `id` of an expanded intent object, or the value itself. -/
def intentId (v : Json) : Json :=
  match v with
  | .obj fields => (fields.lookup "id").getD .null
  | other => other

/-- A minor-unit amount in major units of the currency; an absent amount is zero and anything
but an integer is refused. -/
def amountOf (obj : List (String × Json)) (key : String) (currency : String) :
    Except Fault Float :=
  match obj.lookup key with
  | none | some .null => .ok 0.0
  | some (.int n) =>
    if Money.isZeroDecimal currency then Json.floatOfInt n else Money.fromMinorUnits n
  | some _ => .error (payloadError ("Field '" ++ key ++ "' must be an integer amount in minor units"))

/-- The value under `key`, `null` when absent. -/
def get (obj : List (String × Json)) (key : String) : Json :=
  (obj.lookup key).getD .null

/-- Decodes the envelope of an event once the body is read. -/
def decodeEnvelope (envelope : Json) : Except Fault Event := do
  let .obj env := envelope | throw (payloadError "Webhook body must be a JSON object")
  let (.str eventId, .str eventType) := (get env "id", get env "type")
    | throw (payloadError "Webhook event is missing 'id' or 'type'")
  let obj ← match get env "data" with
    | .obj data =>
      match get data "object" with
      | .obj o => pure o
      | _ => throw (payloadError "Webhook event is missing 'data.object'")
    | _ => throw (payloadError "Webhook event is missing 'data.object'")
  let orderId ← metadataOrderId obj
  let currencyValue := get obj "currency"
  let currency := Text.toLower (if currencyValue.truthy then currencyValue.display else "usd")
  if eventType == checkoutCompletedType then
    if !(get obj "id").truthy then throw (payloadError "Checkout session object has no id")
    let amount ← amountOf obj "amount_total" currency
    return .checkoutCompleted
      { eventId, orderId, sessionId := get obj "id", paymentIntentId := intentId (get obj "payment_intent"),
        amount, currency, raw := obj }
  else if eventType == paymentFailedType then
    if !(get obj "id").truthy then throw (payloadError "Payment intent object has no id")
    let error ← nestedObject obj "last_payment_error"
    let message := get error "message"
    let reason := if message.truthy then message else .str "Payment failed"
    let amount ← amountOf obj "amount" currency
    return .paymentFailed
      { eventId, orderId, paymentIntentId := get obj "id", reason, amount, currency, raw := obj }
  else if eventType == chargeRefundedType then
    if !(get obj "id").truthy then throw (payloadError "Charge object has no id")
    let amount ← amountOf obj "amount_refunded" currency
    return .chargeRefunded
      { eventId, orderId, chargeId := get obj "id",
        paymentIntentId := intentId (get obj "payment_intent"), amountRefunded := amount,
        currency, raw := obj }
  else
    return .unhandled eventId eventType orderId

/-- Decodes a raw webhook body into an event. A body nested too deeply to follow is not refused as
a body but fails as a recursion too deep. -/
def decode (body : List UInt8) : Except Fault Event :=
  match Json.parseBytes body with
  | .error (.malformed _ (.tooDeep inArray)) => .error (.recursion (Json.nestingMessage inArray))
  | .error _ => .error (payloadError "Webhook body is not valid JSON")
  | .ok envelope => decodeEnvelope envelope

end Webhook

end Bazaar
