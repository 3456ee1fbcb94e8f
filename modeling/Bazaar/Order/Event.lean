import Bazaar.Order.Status
import Bazaar.Order.Item

/-!
# Order events

Every change of an order raises an event that says what happened: it was placed, a checkout
session was recorded for it, it was paid (on time or late), its payment failed, it was cancelled,
its status changed, a tracking number was added, or its stock was given back. Events are records
too: the amounts, references and reasons they carry are checked like fields when they are raised.
-/

namespace Bazaar

/-- What happened to an order. -/
inductive OrderEvent where
  | placed (orderId customerId : String) (items : List Json) (total discount fee final : Float)
      (currency : String) (couponCode : Option String)
  | checkoutSessionRecorded (orderId sessionId : String)
  | paid (orderId customerId : String) (amount : Float) (transactionId : Option String)
  | latePaymentCaptured (orderId customerId : String) (orderStatus : OrderStatus)
      (amount : Float) (transactionId : Option String)
  | paymentFailed (orderId customerId : String) (reason : Option String)
  | cancelled (orderId customerId : String) (previous current : OrderStatus)
      (payment : PaymentStatus)
  | statusChanged (orderId : String) (previous current : OrderStatus)
  | trackingNumberAdded (orderId trackingNumber : String) (status : OrderStatus)
  | stockRestored (orderId : String) (items : List (Json × Int))

namespace OrderEvent

/-- An optional text as JSON. -/
def optionalText (o : Option String) : Json :=
  (o.map Json.str).getD .null

/-- The event as a JSON object: its kind under `type`, and its fields. -/
def toJson : OrderEvent → Json
  | placed o c items t d f fin cur code =>
    .obj [("type", .str "OrderPlaced"), ("order_id", .str o), ("customer_id", .str c),
      ("items", .arr items), ("item_count", .int items.length), ("total_amount", .float t),
      ("discount_amount", .float d), ("shipping_fee", .float f), ("final_amount", .float fin),
      ("currency", .str cur), ("coupon_code", optionalText code)]
  | checkoutSessionRecorded o s =>
    .obj [("type", .str "CheckoutSessionRecorded"), ("order_id", .str o),
      ("checkout_session_id", .str s)]
  | paid o c a t =>
    .obj [("type", .str "OrderPaid"), ("order_id", .str o), ("customer_id", .str c),
      ("amount", .float a), ("gateway_transaction_id", optionalText t)]
  | latePaymentCaptured o c st a t =>
    .obj [("type", .str "LatePaymentCaptured"), ("order_id", .str o), ("customer_id", .str c),
      ("order_status", .str st.name), ("amount", .float a), ("gateway_transaction_id", optionalText t)]
  | paymentFailed o c r =>
    .obj [("type", .str "OrderPaymentFailed"), ("order_id", .str o), ("customer_id", .str c),
      ("reason", optionalText r)]
  | cancelled o c p s ps =>
    .obj [("type", .str "OrderCancelled"), ("order_id", .str o), ("customer_id", .str c),
      ("previous_status", .str p.name), ("status", .str s.name), ("payment_status", .str ps.name)]
  | statusChanged o p s =>
    .obj [("type", .str "OrderStatusChanged"), ("order_id", .str o),
      ("previous_status", .str p.name), ("new_status", .str s.name)]
  | trackingNumberAdded o t s =>
    .obj [("type", .str "TrackingNumberAdded"), ("order_id", .str o), ("tracking_number", .str t),
      ("status", .str s.name)]
  | stockRestored o items =>
    .obj [("type", .str "OrderStockRestored"), ("order_id", .str o),
      ("items", .arr (items.map fun (p, q) => .obj [("product_id", p), ("quantity", .int q)]))]

/-- The event of a placed order; its currency must be a code of one to three characters. -/
def placedChecked (orderId customerId : String) (items : List Json)
    (total discount fee final : Float) (currency : String) (couponCode : Option String) :
    Validation OrderEvent :=
  (fun cur => placed orderId customerId items total discount fee final cur couponCode)
    <$> Field.required [("currency", .str currency)] "currency" (Field.text 1 (some 3))

/-- The event of a recorded checkout session; the session must be named. -/
def sessionRecordedChecked (orderId : String) (sessionId : Json) : Validation OrderEvent :=
  checkoutSessionRecorded orderId
    <$> Field.required [("checkout_session_id", sessionId)] "checkout_session_id"
      (Field.text 1 (some 255))

/-- The amount and gateway reference of a payment event, checked. -/
def paymentParts (amount transactionId : Json) : Validation (Float × Option String) :=
  let given := [("amount", amount), ("gateway_transaction_id", transactionId)]
  Prod.mk <$> Field.required given "amount" (Field.number none)
    <*> Field.optional given "gateway_transaction_id" (Field.text 0 (some 255))

/-- The event of a payment applied on time. -/
def paidChecked (orderId customerId : String) (amount transactionId : Json) :
    Validation OrderEvent :=
  (fun (a, t) => paid orderId customerId a t) <$> paymentParts amount transactionId

/-- The event of a payment captured after the order left awaiting payment. -/
def lateChecked (orderId customerId : String) (status : OrderStatus)
    (amount transactionId : Json) : Validation OrderEvent :=
  (fun (a, t) => latePaymentCaptured orderId customerId status a t)
    <$> paymentParts amount transactionId

/-- The event of a failed payment, with its reason of at most 500 characters. -/
def failedChecked (orderId customerId : String) (reason : Json) : Validation OrderEvent :=
  paymentFailed orderId customerId
    <$> Field.optional [("reason", reason)] "reason" (Field.text 0 (some 500))

end OrderEvent

end Bazaar
