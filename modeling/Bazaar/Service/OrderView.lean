import Bazaar.Order.Action
import Bazaar.Service.Body

/-!
# Views of orders in answers

An order is shown by its state (statuses, tracking number, stock mark, checkout session) and by
its amounts (money, lines, addresses, references), and its events by their kind and fields.
-/

namespace Bazaar

namespace Service

/-- An optional text as JSON. -/
def optionalText (o : Option String) : Json :=
  (o.map Json.str).getD .null

/-- The moving parts of an order. -/
def orderState (o : Order) : Json :=
  .obj [("status", .str o.status.name), ("payment_status", .str o.paymentStatus.name),
    ("tracking_number", optionalText o.trackingNumber), ("stock_restored", .bool o.stockRestored),
    ("checkout_session_id", optionalText o.checkoutSessionId)]

/-- The fixed parts of an order, its lines shown by `line`. -/
def orderAmounts (line : OrderItem → Json) (o : Order) : List (String × Json) :=
  [("total_amount", .float o.total), ("discount_amount", .float o.discount),
    ("shipping_fee", .float o.shippingFee), ("final_amount", .float o.final),
    ("currency", .str o.currency), ("seller_refs", .str o.sellerRefs),
    ("items", .arr (o.items.map line)), ("shipping_address", o.shipping.toJson),
    ("billing_address", o.billing.toJson), ("payment_method", .str o.paymentMethod),
    ("coupon_code", optionalText o.couponCode), ("coupon_id", optionalText o.couponId),
    ("customer_id", .str o.customerId)]

end Service

end Bazaar
