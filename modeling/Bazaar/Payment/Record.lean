import Bazaar.Record.Field

/-!
# Payment records

Every gateway callback that moves money leaves one payment record: a completed payment, a failed
attempt or a refund, with its amount, currency, the gateway's reference and the gateway's own
account of it. Records are only ever added; they also tell a repeated callback from a new one.
-/

namespace Bazaar

/-- What a payment record says happened. -/
inductive PaymentOutcome where
  | completed
  | failed
  | refunded
  deriving BEq, DecidableEq

namespace PaymentOutcome

/-- The name of an outcome. -/
def name : PaymentOutcome → String
  | completed => "COMPLETED"
  | failed => "FAILED"
  | refunded => "REFUNDED"

end PaymentOutcome

/-- A record of money moved for an order. -/
structure Payment where
  orderId : String
  customerId : String
  amount : Float
  currency : String
  transactionId : Option String
  outcome : PaymentOutcome
  failureReason : Option String
  gatewayResponse : Option String

namespace Payment

/-- A checked payment record: the amount is not negative, the currency a code of one to three
characters, the reference and reason of bounded length. -/
def record (orderId customerId : String) (amount : Float) (currency : Json)
    (outcome : PaymentOutcome) (transactionId : Json) (failureReason : Json := .null)
    (gatewayResponse : Json := .null) : Except Fault Payment :=
  let given : Field.Given := [("amount", .float amount), ("currency", currency),
    ("gateway_transaction_id", transactionId), ("failure_reason", failureReason),
    ("gateway_response", gatewayResponse)]
  ((fun a c t r g => Payment.mk orderId customerId a c t outcome r g)
    <$> Field.required given "amount" (Field.number (some 0))
    <*> Field.required given "currency" (Field.text 1 (some 3))
    <*> Field.optional given "gateway_transaction_id" (Field.text 0 (some 255))
    <*> Field.optional given "failure_reason" (Field.text 0 (some 500))
    <*> Field.optional given "gateway_response" (Field.text 0 none)).toExcept

end Payment

end Bazaar
