import Bazaar.Market.Command

/-!
# Requests and the markets they reach

A client works the marketplace through requests: the cart commands, placing and checking out
orders, cancelling them, staff status changes and tracking numbers, opening a checkout session, and
the gateway's signed webhooks. Inside, each webhook becomes a reconciliation command that its
handler runs in a unit of work; the handlers can also be given such commands directly, with any
fields.

A market is reachable from another when some sequence of operations leads there, each operation
run from the market the previous one left, whether it succeeded or failed.
-/

namespace Bazaar

/-- What a client asks of the marketplace. Commands carry their fields as given. -/
inductive Request where
  | addToCart (given : Field.Given)
  | updateCartItem (given : Field.Given)
  | removeFromCart (given : Field.Given)
  | clearCart (given : Field.Given)
  | placeOrder (given : Field.Given)
  | checkoutCart (given : Field.Given)
  | cancelOrder (given : Field.Given)
  | updateOrderStatus (given : Field.Given)
  | addTrackingNumber (given : Field.Given)
  | createSession (orderId requester : String) (successUrl cancelUrl : Json)
  | webhook (body : List UInt8) (signature : String)

namespace Request

open Market

/-- Runs a request; its answer is dropped. -/
def run : Request → MarketM Unit
  | addToCart given => Command.addToCart given
  | updateCartItem given => Command.updateCartItem given
  | removeFromCart given => Command.removeFromCart given
  | clearCart given => do let _ ← Command.clearCart given
  | placeOrder given => do let _ ← Command.placeOrder given
  | checkoutCart given => do let _ ← Command.checkoutCart given
  | cancelOrder given => do let _ ← Command.cancelOrder given
  | updateOrderStatus given => do let _ ← Command.updateOrderStatus given
  | addTrackingNumber given => do let _ ← Command.addTrackingNumber given
  | createSession orderId requester successUrl cancelUrl => do
    let _ ← Market.createSession orderId requester successUrl cancelUrl
  | webhook body signature => do let _ ← receiveWebhook body signature

end Request

/-- A reconciliation command given to its handler directly. -/
inductive Reconciliation where
  | recordSession (orderId sessionId : String)
  | confirmCheckout (c : Market.ConfirmCheckout)
  | recordFailedPayment (c : Market.RecordFailedPayment)
  | recordChargeRefund (c : Market.RecordChargeRefund)

namespace Reconciliation

open Market

/-- Runs a reconciliation command's handler in its unit of work; its answer is dropped. -/
def run : Reconciliation → MarketM Unit
  | recordSession orderId sessionId => Market.recordSession orderId sessionId
  | confirmCheckout c => do let _ ← unitOfWork (Market.confirmCheckout c)
  | recordFailedPayment c => do let _ ← unitOfWork (Market.recordFailedPayment c)
  | recordChargeRefund c => do let _ ← unitOfWork (Market.recordChargeRefund c)

end Reconciliation

namespace Market

/-- The markets reached from `start` by operations of a family, run one after another, each from
the market the previous one left, whether it succeeded or failed. -/
inductive Reachable {ι : Type} (op : ι → MarketM Unit) (start : Market) : Market → Prop
  | start : Reachable op start start
  | step {m : Market} (i : ι) : Reachable op start m → Reachable op start (run (op i) m).2

end Market

end Bazaar
