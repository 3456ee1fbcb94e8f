/-!
# Order and payment statuses

An order moves along two state machines. Its status goes from awaiting payment through
processing and shipping to delivery, may be cancelled by the customer, the seller or an admin
while awaiting payment or processing, and after delivery may go through a return. Its payment goes
from pending to completed or failed, a failed payment may still complete, and a completed payment
may be refunded, wholly or first in part.
-/

namespace Bazaar

/-- Where an order stands. -/
inductive OrderStatus where
  | pendingPayment
  | processing
  | shipped
  | delivered
  | cancelledByCustomer
  | cancelledBySeller
  | cancelledByAdmin
  | returnRequested
  | returnApproved
  | returnRejected
  deriving BEq, DecidableEq, Inhabited

namespace OrderStatus

/-- Every status, in the order of the state machine. -/
def all : List OrderStatus :=
  [pendingPayment, processing, shipped, delivered, cancelledByCustomer, cancelledBySeller,
    cancelledByAdmin, returnRequested, returnApproved, returnRejected]

/-- The name of a status. -/
def name : OrderStatus → String
  | pendingPayment => "PENDING_PAYMENT"
  | processing => "PROCESSING"
  | shipped => "SHIPPED"
  | delivered => "DELIVERED"
  | cancelledByCustomer => "CANCELLED_BY_CUSTOMER"
  | cancelledBySeller => "CANCELLED_BY_SELLER"
  | cancelledByAdmin => "CANCELLED_BY_ADMIN"
  | returnRequested => "RETURN_REQUESTED"
  | returnApproved => "RETURN_APPROVED"
  | returnRejected => "RETURN_REJECTED"

/-- The status of an exact name. -/
def ofName? (s : String) : Option OrderStatus :=
  all.find? (fun st => st.name == s)

/-- Whether a status is one of the three cancellations. -/
def isCancelled : OrderStatus → Bool
  | cancelledByCustomer | cancelledBySeller | cancelledByAdmin => true
  | _ => false

/-- Whether an order in this status may still be cancelled. -/
def isCancellable : OrderStatus → Bool
  | pendingPayment | processing => true
  | _ => false

/-- Whether a tracking number may be added to an order in this status. -/
def isTrackable : OrderStatus → Bool
  | processing | shipped => true
  | _ => false

/-- Whether the status machine allows a step from one status to another. -/
def canStep : OrderStatus → OrderStatus → Bool
  | pendingPayment, t => t == processing || t.isCancelled
  | processing, t => t == shipped || t.isCancelled
  | shipped, t => t == delivered
  | delivered, t => t == returnRequested
  | returnRequested, t => t == returnApproved || t == returnRejected
  | _, _ => false

end OrderStatus

/-- Where an order's payment stands. -/
inductive PaymentStatus where
  | pending
  | completed
  | failed
  | refunded
  | partiallyRefunded
  deriving BEq, DecidableEq, Inhabited

namespace PaymentStatus

/-- Every payment status. -/
def all : List PaymentStatus :=
  [pending, completed, failed, refunded, partiallyRefunded]

/-- The name of a payment status. -/
def name : PaymentStatus → String
  | pending => "PENDING"
  | completed => "COMPLETED"
  | failed => "FAILED"
  | refunded => "REFUNDED"
  | partiallyRefunded => "PARTIALLY_REFUNDED"

/-- Whether the payment machine allows a step from one payment status to another. -/
def canStep : PaymentStatus → PaymentStatus → Bool
  | pending, t => t == completed || t == failed
  | failed, t => t == completed
  | completed, t => t == refunded || t == partiallyRefunded
  | partiallyRefunded, t => t == refunded
  | refunded, _ => false

/-- Whether a payment holds captured money that a cancellation hands back. -/
def isRefundable : PaymentStatus → Bool
  | completed | partiallyRefunded => true
  | _ => false

end PaymentStatus

/-- Who acts on an order. -/
inductive ActorRole where
  | customer
  | seller
  | admin
  deriving BEq, DecidableEq, Inhabited

namespace ActorRole

/-- Every role. -/
def all : List ActorRole := [customer, seller, admin]

/-- The name of a role. -/
def name : ActorRole → String
  | customer => "CUSTOMER"
  | seller => "SELLER"
  | admin => "ADMIN"

/-- The role of an exact name. -/
def ofName? (s : String) : Option ActorRole :=
  all.find? (fun r => r.name == s)

end ActorRole

end Bazaar
