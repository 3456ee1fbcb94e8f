import Mathlib
import Bazaar.Proofs.Market.Steps

/-!
# Every stored order is consistent

An order carries two statuses, its own and its payment's, and a mark that says whether its stock
was given back. The actions move them together, so that every stored order is consistent
(`Order.Consistent`):

* an order awaiting payment has its payment pending or failed;
* a refunded payment belongs to a cancelled order;
* the stock was given back exactly when the order is cancelled;
* no payment is ever partly refunded;
* a delivered order, or one in a return, has its payment completed or failed.

Start from a store whose orders are consistent, none for instance, and run any requests and any
reconciliation commands given directly, in any order, each succeeding or failing: every order of
every store reached is consistent (`Market.orders_stay_consistent`).

The proof follows `Store.Step`. A placed order is consistent, and so is each order that a change
or a move of its payment leaves. Two facts of the status machine carry the steps: no status steps
out of a cancellation, and the statuses after delivery are entered only by delivery or from one
another. A refunded payment is thus never seen outside a cancelled order, and delivery, which
completes a pending payment, finds one pending, completed or failed.
-/

namespace Bazaar

namespace OrderStatus

/-- Delivered, or anywhere in a return: the statuses an order has after delivery. -/
def isDelivered : OrderStatus → Bool
  | delivered | returnRequested | returnApproved | returnRejected => true
  | _ => false

/-- No status steps out of a cancellation. -/
theorem isCancelled_eq_false_of_canStep {s t : OrderStatus} (allowed : s.canStep t = true) :
    s.isCancelled = false := by
  cases s <;> cases t <;> simp_all [canStep, isCancelled]

/-- No status steps back to awaiting payment. -/
theorem canStep_ne_pendingPayment {s t : OrderStatus} (allowed : s.canStep t = true) :
    t ≠ .pendingPayment := by
  rintro rfl
  cases s <;> simp_all [canStep, isCancelled]

/-- The statuses after delivery are entered by delivery, or from one another. -/
theorem isDelivered_of_canStep {s t : OrderStatus} (allowed : s.canStep t = true)
    (after : t.isDelivered = true) : t = .delivered ∨ s.isDelivered = true := by
  cases s <;> cases t <;> simp_all [canStep, isCancelled, isDelivered]

theorem ne_pendingPayment_of_isCancelled {t : OrderStatus} (cancelled : t.isCancelled = true) :
    t ≠ .pendingPayment := by
  rintro rfl
  cases cancelled

theorem isDelivered_eq_false_of_isCancelled {t : OrderStatus} (cancelled : t.isCancelled = true) :
    t.isDelivered = false := by
  cases t <;> simp_all [isCancelled, isDelivered]

theorem isCancelled_eq_false_of_isTrackable {s : OrderStatus} (trackable : s.isTrackable = true) :
    s.isCancelled = false := by
  cases s <;> simp_all [isTrackable, isCancelled]

/-- A tracking number ships a processing order and leaves a shipped one: either way the order is
shipped. -/
theorem shipped_of_isTrackable {s : OrderStatus} (trackable : s.isTrackable = true) :
    (if s = .processing then .shipped else s) = .shipped := by
  cases s <;> simp_all [isTrackable]

end OrderStatus

namespace Order

@[simp] theorem cancelledInto_status (o : Order) (target : OrderStatus) :
    (o.cancelledInto target).status = target := rfl

@[simp] theorem cancelledInto_paymentStatus (o : Order) (target : OrderStatus) :
    (o.cancelledInto target).paymentStatus =
      if o.paymentStatus.isRefundable then .refunded else o.paymentStatus := rfl

@[simp] theorem steppedTo_status (o : Order) (target : OrderStatus) :
    (o.steppedTo target).status = target := rfl

@[simp] theorem steppedTo_stockRestored (o : Order) (target : OrderStatus) :
    (o.steppedTo target).stockRestored = o.stockRestored := rfl

/-- A step by staff completes the payment, on delivery, or leaves it as it was. -/
theorem steppedTo_paymentStatus (o : Order) (target : OrderStatus) :
    (o.steppedTo target).paymentStatus = .completed ∨
      (o.steppedTo target).paymentStatus = o.paymentStatus := by
  unfold steppedTo
  split <;> simp

/-- The order's own status, its payment's status and its stock mark agree. -/
@[mk_iff]
structure Consistent (o : Order) : Prop where
  /-- An order awaiting payment has its payment pending or failed. -/
  awaiting : o.status = .pendingPayment → o.paymentStatus = .pending ∨ o.paymentStatus = .failed
  /-- A refunded payment belongs to a cancelled order. -/
  refunded : o.paymentStatus = .refunded → o.status.isCancelled = true
  /-- The stock was given back exactly when the order is cancelled. -/
  restored : o.stockRestored = o.status.isCancelled
  /-- No payment is partly refunded. -/
  whole : o.paymentStatus ≠ .partiallyRefunded
  /-- After delivery the payment is completed or failed. -/
  delivered : o.status.isDelivered = true →
    o.paymentStatus = .completed ∨ o.paymentStatus = .failed

instance : DecidablePred Consistent := fun o => decidable_of_iff _ (consistent_iff o).symm

namespace Consistent

variable {old : Order}

theorem not_refunded (consistent : old.Consistent) (live : old.status.isCancelled = false) :
    old.paymentStatus ≠ .refunded := fun refunded => by
  simpa [live] using consistent.refunded refunded

theorem holding (consistent : old.Consistent) (live : old.status.isCancelled = false) :
    old.stockRestored = false :=
  consistent.restored.trans live

/-- A placed order, awaiting its payment and holding its stock, is consistent. -/
theorem of_placed {o : Order} (awaiting : o.status = .pendingPayment)
    (unpaid : o.paymentStatus = .pending) (holding : o.stockRestored = false) : o.Consistent where
  awaiting _ := .inl unpaid
  refunded := by simp [unpaid]
  restored := by simp [holding, awaiting, OrderStatus.isCancelled]
  whole := by simp [unpaid]
  delivered := by simp [awaiting, OrderStatus.isDelivered]

/-- A cancellation refunds a captured payment, which a cancelled order may have, and gives the
stock back. -/
theorem cancelled (consistent : old.Consistent) {target : OrderStatus}
    (cancelling : target.isCancelled = true) :
    { old.cancelledInto target with stockRestored := true }.Consistent where
  awaiting awaiting :=
    absurd awaiting (OrderStatus.ne_pendingPayment_of_isCancelled cancelling)
  refunded _ := cancelling
  restored := cancelling.symm
  whole := by
    -- a refundable payment becomes refunded, any other is kept
    show (old.cancelledInto target).paymentStatus ≠ .partiallyRefunded
    rw [cancelledInto_paymentStatus]
    split
    · simp
    · exact consistent.whole
  delivered delivered := by
    have before : target.isDelivered = false :=
      OrderStatus.isDelivered_eq_false_of_isCancelled cancelling
    simp_all

/-- A step by staff out of a status that is not cancelled, into one that is not cancelled. -/
theorem stepped (consistent : old.Consistent) {target : OrderStatus}
    (allowed : old.status.canStep target = true) (notCancelling : target.isCancelled = false) :
    (old.steppedTo target).Consistent := by
  have live := OrderStatus.isCancelled_eq_false_of_canStep allowed
  have unrefunded := consistent.not_refunded live
  constructor
  case awaiting =>
    intro awaiting
    exact absurd awaiting (OrderStatus.canStep_ne_pendingPayment allowed)
  case refunded =>
    intro refunded
    rcases steppedTo_paymentStatus old target with completed | kept
    · simp [completed] at refunded
    · exact absurd (kept ▸ refunded) unrefunded
  case restored =>
    simp [consistent.holding live, notCancelling]
  case whole =>
    rcases steppedTo_paymentStatus old target with completed | kept
    · simp [completed]
    · exact kept ▸ consistent.whole
  case delivered =>
    intro after
    rcases OrderStatus.isDelivered_of_canStep allowed after with rfl | before
    · -- delivery completes a pending payment; a refunded or partly refunded one is not there
      have whole := consistent.whole
      cases paid : old.paymentStatus <;> simp_all [steppedTo]
    · -- past delivery the payment is completed or failed, and a step keeps it
      rcases consistent.delivered before with completed | failed
      · simp [steppedTo, completed]
      · simp [steppedTo, failed]

/-- A tracking number is added to a processing or shipped order, which is shipped after. -/
theorem tracked (consistent : old.Consistent) (trackingNumber : String)
    (trackable : old.status.isTrackable = true) :
    { old with
      trackingNumber := some trackingNumber
      status := if old.status = OrderStatus.processing then .shipped else old.status }.Consistent := by
  have live := OrderStatus.isCancelled_eq_false_of_isTrackable trackable
  have shipped := OrderStatus.shipped_of_isTrackable trackable
  constructor
  case awaiting => simp [shipped]
  case refunded => exact fun refunded => absurd refunded (consistent.not_refunded live)
  case restored => simp [shipped, consistent.holding live, OrderStatus.isCancelled]
  case whole => exact consistent.whole
  case delivered => simp [shipped, OrderStatus.isDelivered]

theorem session (consistent : old.Consistent) (sessionId : Option String) :
    { old with checkoutSessionId := sessionId }.Consistent :=
  ⟨consistent.awaiting, consistent.refunded, consistent.restored, consistent.whole,
    consistent.delivered⟩

/-- Every change of an order outside its payment keeps it consistent. -/
theorem change (consistent : old.Consistent) {o : Order} (changed : old.Change o) :
    o.Consistent := by
  cases changed with
  | cancel _ cancelling => exact consistent.cancelled cancelling
  | step allowed notCancelling => exact consistent.stepped allowed notCancelling
  | track trackingNumber trackable => exact consistent.tracked trackingNumber trackable
  | session sessionId _ => exact consistent.session sessionId

/-- A completed payment moves an order awaiting it to processing, and keeps any other status. -/
theorem paid (consistent : old.Consistent) : old.paid.Consistent := by
  unfold Order.paid
  split
  case isTrue awaiting =>
    -- the order still holds its stock, and processing is no cancellation
    have live : old.status.isCancelled = false := by simp [awaiting, OrderStatus.isCancelled]
    exact ⟨by simp, by simp, by simp [consistent.holding live, OrderStatus.isCancelled], by simp,
      fun _ => .inl rfl⟩
  case isFalse notAwaiting =>
    exact ⟨fun awaiting => absurd awaiting notAwaiting, by simp, consistent.restored, by simp,
      fun _ => .inl rfl⟩

theorem failed (consistent : old.Consistent) : { old with paymentStatus := .failed }.Consistent :=
  ⟨fun _ => .inr rfl, by simp, consistent.restored, by simp, fun _ => .inr rfl⟩

end Consistent

end Order

namespace Store

/-- Every stored order is consistent. -/
def OrdersConsistent (s : Store) : Prop :=
  ∀ o ∈ s.orders, o.Consistent

namespace OrdersConsistent

variable {s s' : Store}

theorem putOrder (consistent : s.OrdersConsistent) {o : Order} (written : o.Consistent)
    (orders_eq : s'.orders = (s.putOrder o).orders) : s'.OrdersConsistent := by
  intro q member
  rw [orders_eq, putOrder_orders] at member
  rcases mem_upsert member with rfl | stored
  · exact written
  · exact consistent q stored

theorem of_orders_eq (consistent : s.OrdersConsistent) (orders_eq : s'.orders = s.orders) :
    s'.OrdersConsistent := by
  intro q member
  rw [orders_eq] at member
  exact consistent q member

/-- Every step of a request or a reconciliation keeps the orders consistent. -/
theorem step {named : String → Prop} (consistent : s.OrdersConsistent) (step : Step named s s') :
    s'.OrdersConsistent := by
  cases step with
  | keep orders_eq => exact consistent.of_orders_eq orders_eq
  | place _ awaiting unpaid holding orders_eq =>
    exact consistent.putOrder (.of_placed awaiting unpaid holding) orders_eq
  | change member changed orders_eq =>
    exact consistent.putOrder ((consistent _ member).change changed) orders_eq
  | pay member _ _ _ _ orders_eq => exact consistent.putOrder (consistent _ member).paid orders_eq
  | fail member _ _ _ _ _ orders_eq =>
    exact consistent.putOrder (consistent _ member).failed orders_eq
  | refund _ _ _ _ orders_eq => exact consistent.of_orders_eq orders_eq

end OrdersConsistent

end Store

namespace Market

/-- Run requests and reconciliation commands given directly, in any order, from a store whose
orders are consistent: every order of every store reached is consistent. -/
theorem orders_stay_consistent {start m : Market}
    (initially : ∀ o ∈ start.store.orders, o.Consistent)
    (reached : Reachable (Sum.elim Request.run Reconciliation.run) start m) :
    ∀ o ∈ m.store.orders, o.Consistent := by
  induction reached with
  | start => exact initially
  | step i _ consistent =>
    -- a request or a reconciliation: each takes a step of the orders
    cases i with
    | inl r => exact Store.OrdersConsistent.step consistent (step_run r _)
    | inr c => exact Store.OrdersConsistent.step consistent (reconciliation_step_run c _)

/-- Placing the sample order, recording its checkout session and confirming its payment leaves one
order, paid and being processed, with its session, and consistent. -/
theorem orders_consistent_after_placing_and_a_session :
    let m := (run (Reconciliation.confirmCheckout lampCheckout).run
      (run (Reconciliation.recordSession (Store.orderToken 0) "cs_1").run
        (run (Request.placeOrder lampOrder).run lampShop).2).2).2
    (∀ o ∈ lampShop.store.orders, o.Consistent) ∧
    m.store.orders.map (fun o => (o.status, o.paymentStatus, o.checkoutSessionId)) =
      [(.processing, .completed, some "cs_1")] ∧
    ∀ o ∈ m.store.orders, o.Consistent := by
  have paid : (run (Reconciliation.confirmCheckout lampCheckout).run
      (run (Reconciliation.recordSession (Store.orderToken 0) "cs_1").run
        (run (Request.placeOrder lampOrder).run lampShop).2).2).2.store.orders.map
        (fun o => (o.status, o.paymentStatus, o.checkoutSessionId)) =
      [(.processing, .completed, some "cs_1")] := by
    decide +kernel
  have initially : ∀ o ∈ lampShop.store.orders, o.Consistent := by decide
  exact ⟨initially, paid, orders_stay_consistent initially
    (((Reachable.start.request (.placeOrder lampOrder)).reconcile
      (.recordSession (Store.orderToken 0) "cs_1")).reconcile (.confirmCheckout lampCheckout))⟩

end Market

end Bazaar
