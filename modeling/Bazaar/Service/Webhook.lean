import Bazaar.Service.Body
import Bazaar.Webhook.Event

/-!
# Webhook requests

Decoding an event, computing a signature and verifying a header, each on a body given as the
request says.
-/

namespace Bazaar

namespace Service

/-- The members describing a decoded event. -/
def eventMembers (ev : Webhook.Event) : List (String × Json) :=
  let orderId : Json := match ev.orderId with
    | some o => .str o
    | none => .null
  match ev with
  | .checkoutCompleted e =>
    [("kind", .str "CheckoutCompleted"), ("event_id", .str e.eventId),
      ("event_type", .str ev.eventType), ("order_id", orderId), ("session_id", e.sessionId),
      ("payment_intent_id", e.paymentIntentId), ("amount", .float e.amount),
      ("currency", .str e.currency)]
  | .paymentFailed e =>
    [("kind", .str "PaymentFailed"), ("event_id", .str e.eventId),
      ("event_type", .str ev.eventType), ("order_id", orderId),
      ("payment_intent_id", e.paymentIntentId), ("reason", e.reason), ("amount", .float e.amount),
      ("currency", .str e.currency)]
  | .chargeRefunded e =>
    [("kind", .str "ChargeRefunded"), ("event_id", .str e.eventId),
      ("event_type", .str ev.eventType), ("order_id", orderId), ("charge_id", e.chargeId),
      ("payment_intent_id", e.paymentIntentId), ("amount_refunded", .float e.amountRefunded),
      ("currency", .str e.currency)]
  | .unhandled eventId eventType _ =>
    [("kind", .str "UnhandledEvent"), ("event_id", .str eventId), ("event_type", .str eventType),
      ("order_id", orderId)]

/-- Decodes the event of a body. -/
def decodeEventAnswer (req : Json) : Json :=
  answerOf do
    let body ← requestBody req
    let ev ← Webhook.decode body
    return .obj (eventMembers ev)

/-- Computes the signature of a body at a timestamp; both must be given. -/
def computeSignatureAnswer (req : Json) : Json :=
  answerOf do
    let body ← requestBody req
    let some secret := req.field? "secret" | throw .missingKey
    let some stamp := req.field? "timestamp" | throw .missingKey
    let key ← Webhook.secretText secret
    return .obj [("signature", .str (Webhook.digest body key stamp.display))]

/-- Verifies a header, built from its specification, against a body. -/
def verifySignatureAnswer (req : Json) : Json :=
  answerOf do
    let body ← requestBody req
    let secret := (req.field? "secret").getD (.str "whsec_test_secret")
    let tolerance := (req.field? "tolerance").getD (.int 300)
    let h ← signatureHeader (req.fieldOrNull "signature") body secret referenceNow
    Webhook.verify body h secret tolerance referenceNow
    return .obj [("ok", .bool true)]

end Service

end Bazaar
