import Mathlib
import Bazaar.Proofs.Market.Steps

/-!
# Both state machines are respected

An order's status and its payment's status each move along a state machine
(`OrderStatus.canStep`, `PaymentStatus.canStep`). Every action on an order that succeeds leaves
each status where it was or moves it one allowed step (`Order.Follows`). Several actions write a
status without asking the machine: a cancellation refunds a captured payment, delivery completes a
pending one, a tracking number ships a processing order, and a payment failure keeps a failed
payment as it is. Each such write is checked here against the machine, from every status it can be
made in.

Stored orders change only by such actions, so along any run of requests and reconciliations every
order stays stored under its identifier and its statuses move only along the machines
(`Market.orders_carried`). A terminal status, from which the machine allows no step, and a refunded
payment are therefore never left.
-/

open Relation

namespace Bazaar

namespace OrderStatus

/-- The statuses the status machine allows no step out of: the cancellations and the two ends of a
return. -/
def isTerminal : OrderStatus → Bool
  | cancelledByCustomer | cancelledBySeller | cancelledByAdmin | returnApproved | returnRejected =>
    true
  | _ => false

/-- Each status that is not terminal has a step out. -/
theorem exists_canStep_of_isTerminal_eq_false {s : OrderStatus} (live : s.isTerminal = false) :
    ∃ t, s.canStep t = true := by
  cases s
  case pendingPayment => exact ⟨.processing, rfl⟩
  case processing => exact ⟨.shipped, rfl⟩
  case shipped => exact ⟨.delivered, rfl⟩
  case delivered => exact ⟨.returnRequested, rfl⟩
  case returnRequested => exact ⟨.returnApproved, rfl⟩
  all_goals cases live

/-- The terminal statuses are exactly those without an allowed step out. -/
theorem isTerminal_iff (s : OrderStatus) : s.isTerminal = true ↔ ∀ t, s.canStep t = false := by
  constructor
  · intro terminal t
    cases s <;> simp_all [isTerminal, canStep]
  · intro stuck
    cases live : s.isTerminal
    · obtain ⟨t, allowed⟩ := exists_canStep_of_isTerminal_eq_false live
      rw [stuck t] at allowed
      cases allowed
    · rfl

/-- A cancellable order may be moved into any cancellation. -/
theorem canStep_of_isCancellable {s t : OrderStatus} (cancellable : s.isCancellable = true)
    (cancelling : t.isCancelled = true) : s.canStep t = true := by
  cases s <;> simp_all [isCancellable, canStep]

end OrderStatus

namespace PaymentStatus

/-- A captured payment may be refunded. -/
theorem canStep_refunded_of_isRefundable {ps : PaymentStatus}
    (refundable : ps.isRefundable = true) :
    ps.canStep .refunded = true := by
  cases ps <;> simp_all [isRefundable, canStep]

end PaymentStatus

namespace Order

/-- The statuses of `o'` are those of `o`, or one allowed step of their machine away. -/
structure Follows (o o' : Order) : Prop where
  status : ReflGen (fun s t : OrderStatus => s.canStep t) o.status o'.status
  payment : ReflGen (fun s t : PaymentStatus => s.canStep t) o.paymentStatus o'.paymentStatus

theorem Follows.refl (o : Order) : o.Follows o := ⟨.refl, .refl⟩

/-- A step of the machine out of a terminal status is none: it stays. -/
theorem Follows.status_eq {o o' : Order} (follows : o.Follows o')
    (terminal : o.status.isTerminal = true) : o'.status = o.status := by
  rcases (reflGen_iff _ _ _).1 follows.status with same | allowed
  · exact same
  · rw [(OrderStatus.isTerminal_iff _).1 terminal] at allowed
    cases allowed

/-- No payment step leaves a refund. -/
theorem Follows.refunded {o o' : Order} (follows : o.Follows o')
    (refunded : o.paymentStatus = .refunded) : o'.paymentStatus = .refunded := by
  rcases (reflGen_iff _ _ _).1 follows.payment with same | allowed
  · exact same.trans refunded
  · rw [refunded] at allowed
    cases allowed

/-! ## The writes of the actions -/

section Writes

variable {o : Order}

/-- A cancellation moves a cancellable order into the cancellation and refunds a captured
payment. -/
theorem cancelledInto_follows {target : OrderStatus} (cancellable : o.status.isCancellable = true)
    (cancelling : target.isCancelled = true) : o.Follows (o.cancelledInto target) := by
  refine ⟨.single (OrderStatus.canStep_of_isCancellable cancellable cancelling), ?_⟩
  show ReflGen _ o.paymentStatus
    (if o.paymentStatus.isRefundable then .refunded else o.paymentStatus)
  split
  case isTrue refundable =>
    exact .single (PaymentStatus.canStep_refunded_of_isRefundable refundable)
  case isFalse => exact .refl

/-- A step by staff completes a payment only on delivery, and only a pending one. -/
theorem steppedTo_follows {target : OrderStatus} (allowed : o.status.canStep target = true) :
    o.Follows (o.steppedTo target) := by
  refine ⟨.single allowed, ?_⟩
  show ReflGen _ o.paymentStatus
    (if target == .delivered && o.paymentStatus == .pending then .completed else o.paymentStatus)
  split
  case isTrue delivering =>
    have pending : o.paymentStatus = .pending := by simp_all
    rw [pending]
    exact .single rfl
  case isFalse => exact .refl

/-- A confirmed payment completes a payment that may complete, and moves an order awaiting it to
processing. -/
theorem paid_follows (payable : o.paymentStatus.canStep .completed = true) : o.Follows o.paid := by
  refine ⟨?_, by rw [paid_paymentStatus]; exact .single payable⟩
  rw [paid_status]
  split
  case isTrue awaiting =>
    rw [awaiting]
    exact .single rfl
  case isFalse => exact .refl

/-- A failure marks a payment failed, or leaves one that already failed. -/
theorem failed_follows
    (failable : o.paymentStatus = .failed ∨ o.paymentStatus.canStep .failed = true) :
    o.Follows { o with paymentStatus := .failed } := by
  refine ⟨.refl, ?_⟩
  show ReflGen _ o.paymentStatus .failed
  rcases failable with failed | allowed
  · rw [failed]
  · exact .single allowed

/-- A tracking number ships a processing order and leaves any other status. -/
theorem tracked_follows (trackingNumber : Option String) :
    o.Follows { o with
      trackingNumber := trackingNumber
      status := if o.status = .processing then .shipped else o.status } := by
  refine ⟨?_, .refl⟩
  show ReflGen _ o.status (if o.status = .processing then .shipped else o.status)
  split
  case isTrue processing =>
    rw [processing]
    exact .single rfl
  case isFalse => exact .refl

/-- Every change of a stored order outside its payment follows the machines. -/
theorem Change.follows {o' : Order} (changed : o.Change o') : o.Follows o' := by
  cases changed with
  | cancel cancellable cancelling =>
    -- the stock mark set with the cancellation is no status
    have cancelled := cancelledInto_follows cancellable cancelling
    exact ⟨cancelled.status, cancelled.payment⟩
  | step allowed => exact steppedTo_follows allowed
  | track trackingNumber => exact tracked_follows (some trackingNumber)
  | session => exact ⟨.refl, .refl⟩

end Writes

/-! ## The actions -/

section Actions

open OrderAction

variable {o o' : Order} {es : List OrderEvent}

theorem confirmPayment_follows {amount transactionId : Json} {r : Unit}
    (ran : run (confirmPayment amount transactionId) o = (.ok r, o', es)) : o.Follows o' := by
  obtain ⟨toProcessing, toCompleted, rfl⟩ := run_of_triple (Q := fun _ o' =>
      o.status.canStep .processing ∧ o.paymentStatus.canStep .completed ∧
        o' = { o with status := .processing, paymentStatus := .completed })
    (confirmPayment_spec amount transactionId o) ran
  exact ⟨.single toProcessing, .single toCompleted⟩

theorem recordLatePayment_follows {amount transactionId : Json} {r : Unit}
    (ran : run (recordLatePayment amount transactionId) o = (.ok r, o', es)) : o.Follows o' := by
  obtain ⟨toCompleted, rfl⟩ := run_of_triple (Q := fun _ o' =>
      o.paymentStatus.canStep .completed ∧ o' = { o with paymentStatus := .completed })
    (recordLatePayment_spec amount transactionId o) ran
  exact ⟨.refl, .single toCompleted⟩

theorem recordPaymentFailure_follows {reason : Json} {r : Unit}
    (ran : run (recordPaymentFailure reason) o = (.ok r, o', es)) : o.Follows o' := by
  obtain ⟨-, failable, rfl⟩ := run_of_triple (Q := fun _ o' => o.status = .pendingPayment ∧
      (o.paymentStatus = .failed ∨ o.paymentStatus.canStep .failed) ∧
      o' = { o with paymentStatus := .failed })
    (recordPaymentFailure_spec reason o) ran
  exact failed_follows failable

theorem cancel_follows {target : OrderStatus} {giveBack : Bool}
    (ran : run (cancel target) o = (.ok giveBack, o', es)) : o.Follows o' := by
  obtain ⟨cancelling, cancellable, -, rfl⟩ := run_of_triple (Q := fun giveBack o' =>
      target.isCancelled ∧ o.status.isCancellable ∧ giveBack = !o.stockRestored ∧
        o' = o.cancelledInto target)
    (cancel_spec target o) ran
  exact cancelledInto_follows cancellable cancelling

theorem updateStatus_follows {target : OrderStatus} {changed : Bool}
    (ran : run (updateStatus target) o = (.ok changed, o', es)) : o.Follows o' := by
  have updated := run_of_triple (Q := fun changed o' =>
      if o.status = target then changed = false ∧ o' = o
      else changed = true ∧
        if target.isCancelled then o.status.isCancellable ∧ o' = o.cancelledInto target
        else o.status.canStep target ∧ o' = o.steppedTo target)
    (updateStatus_spec target o) ran
  -- the same status, a cancellation, or one step of the machine
  split at updated
  · rw [updated.2]
    exact .refl o
  · obtain ⟨-, updated⟩ := updated
    split at updated
    case isTrue cancelling =>
      obtain ⟨cancellable, rfl⟩ := updated
      exact cancelledInto_follows cancellable cancelling
    case isFalse =>
      obtain ⟨allowed, rfl⟩ := updated
      exact steppedTo_follows allowed

theorem addTrackingNumber_follows {trackingNumber : Json} {advanced : Bool}
    (ran : run (addTrackingNumber trackingNumber) o = (.ok advanced, o', es)) : o.Follows o' := by
  obtain ⟨-, -, t, rfl⟩ := run_of_triple (Q := fun advanced o' =>
      o.status.isTrackable ∧ advanced = (o.status == .processing) ∧
        ∃ t, o' = { o with
          trackingNumber := some t
          status := if o.status = .processing then .shipped else o.status })
    (addTrackingNumber_spec trackingNumber o) ran
  exact tracked_follows (some t)

theorem recordCheckoutSession_follows {sessionId : Json} {r : Unit}
    (ran : run (recordCheckoutSession sessionId) o = (.ok r, o', es)) : o.Follows o' := by
  obtain ⟨-, session, rfl⟩ := run_of_triple (Q := fun _ o' =>
      o.status = .pendingPayment ∧ ∃ session, o' = { o with checkoutSessionId := session })
    (recordCheckoutSession_spec sessionId o) ran
  exact ⟨.refl, .refl⟩

end Actions

end Order

namespace Store

/-- Every order of `s` is still stored in `s'` under its identifier, as an order `R` relates it
to. -/
def Carries (R : Order → Order → Prop) (s s' : Store) : Prop :=
  ∀ o ∈ s.orders, ∃ o' ∈ s'.orders, o'.id = o.id ∧ R o o'

namespace Carries

variable {R R' R'' : Order → Order → Prop} {s s' s'' : Store}

/-- Orders that all stay, unchanged. -/
theorem of_mem (refl : ∀ o, R o o) (kept : ∀ o ∈ s.orders, o ∈ s'.orders) :
    Carries R s s' :=
  fun o stored => ⟨o, kept o stored, rfl, refl o⟩

theorem trans (first : Carries R s s') (second : Carries R' s' s'')
    (compose : ∀ a b c, R a b → R' b c → R'' a c) : Carries R'' s s'' := by
  intro o stored
  obtain ⟨o', stored', sameId, related⟩ := first o stored
  obtain ⟨o'', stored'', sameId', related'⟩ := second o' stored'
  exact ⟨o'', stored'', sameId'.trans sameId, compose o o' o'' related related'⟩

/-- Writing back a stored order as one that `R` relates it to carries every order, when no two
orders share an identifier. -/
theorem putOrder (refl : ∀ o, R o o) (distinct : (s.orders.map (·.id)).Nodup) {old o : Order}
    (member : old ∈ s.orders) (sameId : o.id = old.id) (moved : R old o)
    (orders_eq : s'.orders = (s.putOrder o).orders) : Carries R s s' := by
  intro q stored
  rw [orders_eq, putOrder_orders]
  by_cases rewritten : q.id = o.id
  · -- the one order under that identifier is `old`, which `o` replaces
    have isOld : q = old := List.inj_on_of_nodup_map distinct stored member (rewritten.trans sameId)
    subst isOld
    exact ⟨o, mem_upsert_self o s.orders, sameId, moved⟩
  · exact ⟨q, mem_upsert_of_mem stored rewritten, rfl, refl q⟩

end Carries

namespace Step

variable {named : String → Prop} {s s' : Store}

/-- Every step keeps the orders numbered. -/
theorem numbered (step : Step named s s') (numbered : s.OrdersNumbered) : s'.OrdersNumbered := by
  cases step with
  | keep orders_eq => exact ordersNumbered_of_orders_eq orders_eq numbered
  | place next _ _ _ orders_eq =>
    exact ordersNumbered_of_orders_eq orders_eq (numbered.putOrder_next next)
  | change member changed orders_eq =>
    exact ordersNumbered_of_orders_eq orders_eq (numbered.putOrder_of_mem member changed.id_eq)
  | pay member _ _ _ _ orders_eq =>
    exact ordersNumbered_of_orders_eq orders_eq (numbered.putOrder_of_mem member (Order.paid_id _))
  | fail member _ _ _ _ _ orders_eq =>
    exact ordersNumbered_of_orders_eq orders_eq (numbered.putOrder_of_mem member rfl)
  | refund _ _ _ _ orders_eq => exact ordersNumbered_of_orders_eq orders_eq numbered

/-- Every step carries each numbered order forward, its statuses following the machines. -/
theorem carries (step : Step named s s') (numbered : s.OrdersNumbered) :
    Carries Order.Follows s s' := by
  cases step with
  | keep orders_eq => exact .of_mem Order.Follows.refl fun o stored => orders_eq ▸ stored
  | place next _ _ _ orders_eq =>
    -- the new order takes the next identifier, which no stored order has
    refine .of_mem Order.Follows.refl fun o stored => ?_
    rw [orders_eq, putOrder_orders]
    exact mem_upsert_of_mem stored (next ▸ numbered.next_fresh o stored)
  | change member changed orders_eq =>
    exact .putOrder Order.Follows.refl numbered.nodup member changed.id_eq changed.follows orders_eq
  | pay member payable _ _ _ orders_eq =>
    exact .putOrder Order.Follows.refl numbered.nodup member (Order.paid_id _)
      (Order.paid_follows payable) orders_eq
  | @fail old _ _ member _ failable _ _ _ orders_eq =>
    exact .putOrder (o := { old with paymentStatus := .failed }) Order.Follows.refl numbered.nodup
      member rfl (Order.failed_follows failable) orders_eq
  | refund _ _ _ _ orders_eq =>
    exact .of_mem Order.Follows.refl fun o stored => orders_eq ▸ stored

end Step

end Store

namespace Market

open Store

/-- Along any run of requests and reconciliations from a store whose orders are numbered, the
orders stay numbered and every order stays stored under its identifier, its statuses moved only
along the machines. -/
theorem orders_carried {start m : Market} (numbered : start.store.OrdersNumbered)
    (reached : Reachable (Sum.elim Request.run Reconciliation.run) start m) :
    m.store.OrdersNumbered ∧ Carries (ReflTransGen Order.Follows) start.store m.store := by
  induction reached with
  | start => exact ⟨numbered, .of_mem (fun _ => .refl) fun _ stored => stored⟩
  | @step before i _ ih =>
    obtain ⟨numberedNow, carried⟩ := ih
    have extend : ∀ a b c, ReflTransGen Order.Follows a b → Order.Follows b c →
        ReflTransGen Order.Follows a c := fun _ _ _ run follows => run.tail follows
    -- a request or a reconciliation: each takes a step of the orders
    cases i with
    | inl r =>
      have step := step_run r before
      exact ⟨step.numbered numberedNow, carried.trans (step.carries numberedNow) extend⟩
    | inr c =>
      have step := reconciliation_step_run c before
      exact ⟨step.numbered numberedNow, carried.trans (step.carries numberedNow) extend⟩

end Market

namespace Order

/-- Over any number of steps, a terminal status stays. -/
theorem status_eq_of_reflTransGen {o o' : Order} (run : ReflTransGen Follows o o')
    (terminal : o.status.isTerminal = true) : o'.status = o.status := by
  induction run with
  | refl => rfl
  | tail _ follows same => rw [follows.status_eq (same ▸ terminal), same]

/-- Over any number of steps, a refunded payment stays refunded. -/
theorem refunded_of_reflTransGen {o o' : Order} (run : ReflTransGen Follows o o')
    (refunded : o.paymentStatus = .refunded) : o'.paymentStatus = .refunded := by
  induction run with
  | refl => exact refunded
  | tail _ follows before => exact follows.refunded before

end Order

/-- Both state machines are respected: each action that succeeds leaves each of the order's two
statuses where it was or moves it one allowed step, and along any run of requests and
reconciliations from a store of numbered orders no order leaves a terminal status or a refunded
payment. -/
theorem state_machines_respected :
    (∀ (o o' : Order) (es : List OrderEvent) (amount transactionId : Json),
      OrderAction.run (Order.confirmPayment amount transactionId) o = (.ok (), o', es) →
        o.Follows o') ∧
    (∀ (o o' : Order) (es : List OrderEvent) (amount transactionId : Json),
      OrderAction.run (Order.recordLatePayment amount transactionId) o = (.ok (), o', es) →
        o.Follows o') ∧
    (∀ (o o' : Order) (es : List OrderEvent) (reason : Json),
      OrderAction.run (Order.recordPaymentFailure reason) o = (.ok (), o', es) → o.Follows o') ∧
    (∀ (o o' : Order) (es : List OrderEvent) (target : OrderStatus) (giveBack : Bool),
      OrderAction.run (Order.cancel target) o = (.ok giveBack, o', es) → o.Follows o') ∧
    (∀ (o o' : Order) (es : List OrderEvent) (target : OrderStatus) (changed : Bool),
      OrderAction.run (Order.updateStatus target) o = (.ok changed, o', es) → o.Follows o') ∧
    (∀ (o o' : Order) (es : List OrderEvent) (trackingNumber : Json) (advanced : Bool),
      OrderAction.run (Order.addTrackingNumber trackingNumber) o = (.ok advanced, o', es) →
        o.Follows o') ∧
    (∀ (o o' : Order) (es : List OrderEvent) (sessionId : Json),
      OrderAction.run (Order.recordCheckoutSession sessionId) o = (.ok (), o', es) →
        o.Follows o') ∧
    ∀ start m : Market, start.store.OrdersNumbered →
      Market.Reachable (Sum.elim Request.run Reconciliation.run) start m →
      ∀ o ∈ start.store.orders, ∃ o' ∈ m.store.orders, o'.id = o.id ∧
        (o.status.isTerminal = true → o'.status = o.status) ∧
        (o.paymentStatus = .refunded → o'.paymentStatus = .refunded) := by
  refine ⟨fun _ _ _ _ _ => Order.confirmPayment_follows,
    fun _ _ _ _ _ => Order.recordLatePayment_follows,
    fun _ _ _ _ => Order.recordPaymentFailure_follows,
    fun _ _ _ _ _ => Order.cancel_follows, fun _ _ _ _ _ => Order.updateStatus_follows,
    fun _ _ _ _ _ => Order.addTrackingNumber_follows,
    fun _ _ _ _ => Order.recordCheckoutSession_follows, ?_⟩
  intro start m numbered reached o stored
  obtain ⟨o', stored', sameId, run⟩ := (Market.orders_carried numbered reached).2 o stored
  exact ⟨o', stored', sameId, Order.status_eq_of_reflTransGen run,
    Order.refunded_of_reflTransGen run⟩

namespace Market

/-- The sample shop after its order was placed and the customer cancelled it. -/
def cancelledLampShop : Market :=
  (run (Request.cancelOrder
      [("order_id", .str (Store.orderToken 0)), ("requester_id", .str "c1")]).run
    (run (Request.placeOrder lampOrder).run lampShop).2).2

/-- A payment confirmed after the customer cancelled the order is recorded, and the order stays
cancelled: its status is terminal. -/
theorem late_payment_keeps_a_cancelled_order :
    let m := (run (Reconciliation.confirmCheckout lampCheckout).run cancelledLampShop).2
    cancelledLampShop.store.OrdersNumbered ∧
    (cancelledLampShop.store.orders.map Order.status = [.cancelledByCustomer] ∧
      m.store.orders.map Order.paymentStatus = [.completed]) ∧
    ∀ o ∈ cancelledLampShop.store.orders, ∃ o' ∈ m.store.orders, o'.id = o.id ∧
      (o.status.isTerminal = true → o'.status = o.status) ∧
      (o.paymentStatus = .refunded → o'.paymentStatus = .refunded) := by
  have facts : cancelledLampShop.store.OrdersNumbered ∧
      (cancelledLampShop.store.orders.map Order.status = [.cancelledByCustomer] ∧
        (run (Reconciliation.confirmCheckout lampCheckout).run cancelledLampShop).2.store.orders.map
          Order.paymentStatus = [.completed]) := by
    unfold Store.OrdersNumbered
    decide +kernel
  exact ⟨facts.1, facts.2, state_machines_respected.2.2.2.2.2.2.2 _ _ facts.1
    (Reachable.start.reconcile (.confirmCheckout lampCheckout))⟩

end Market

end Bazaar
