import Mathlib
import Bazaar.Proofs.Market.Placement
import Bazaar.Proofs.Payment.Checked
import Bazaar.Proofs.Market.Requests

/-!
# What requests do to orders and payment records

A stored order changes only by a few moves of its state machines, each allowed from some states
only: a cancellation, a step by staff, a tracking number, a checkout session (`Order.Change`), and
the moves of its payment. `Store.Step named s s'` sorts what one request or reconciliation does to
the orders and the payment records into six kinds: nothing, placing an order under the next
identifier, one change of a stored order, and the three moves of a payment, each of which adds
one record for a transaction that had no record with that outcome. The transactions of the new
records satisfy `named`: a webhook names its transaction, a reconciliation given directly may not.

Every request takes such a step whether it succeeds or fails (`Market.request_step`), and so does
every reconciliation (`Market.reconciliation_step`).
-/

open Std.Do

set_option mvcgen.warning false

namespace Bazaar

namespace Order

/-- The moves that change a stored order outside its payment, each from the states it is
allowed from. -/
inductive Change (old : Order) : Order → Prop
  | cancel {target : OrderStatus} (cancellable : old.status.isCancellable = true)
      (cancelling : target.isCancelled = true) :
      Change old { old.cancelledInto target with stockRestored := true }
  | step {target : OrderStatus} (allowed : old.status.canStep target = true)
      (notCancelling : target.isCancelled = false) : Change old (old.steppedTo target)
  | track (trackingNumber : String) (trackable : old.status.isTrackable = true) :
      Change old { old with
        trackingNumber := some trackingNumber
        status := if old.status = .processing then .shipped else old.status }
  | session (sessionId : Option String) (awaiting : old.status = .pendingPayment) :
      Change old { old with checkoutSessionId := sessionId }

theorem Change.id_eq {old o : Order} (changed : old.Change o) : o.id = old.id := by
  cases changed <;> rfl

end Order

namespace Store

/-- What one request or reconciliation does to the orders and the payment records. The
transactions of the records it adds satisfy `named`. -/
inductive Step (named : String → Prop) (s s' : Store) : Prop
  /-- Orders and records as they were. -/
  | keep (orders_eq : s'.orders = s.orders) (payments_eq : s'.payments = s.payments)
  /-- A new order placed under the next identifier, awaiting its payment, holding its stock. -/
  | place {o : Order} (numbered : o.id = orderToken s.orders.length)
      (awaiting : o.status = .pendingPayment) (unpaid : o.paymentStatus = .pending)
      (holding : o.stockRestored = false) (orders_eq : s'.orders = (s.putOrder o).orders)
      (payments_eq : s'.payments = s.payments)
  /-- A stored order changed outside its payment. -/
  | change {old o : Order} (member : old ∈ s.orders) (changed : old.Change o)
      (orders_eq : s'.orders = (s.putOrder o).orders) (payments_eq : s'.payments = s.payments)
  /-- A payment completed, with its record. -/
  | pay {old : Order} {txn : String} {p : Payment} (member : old ∈ s.orders)
      (payable : old.paymentStatus.canStep .completed = true) (txnNamed : named txn)
      (fresh : s.recorded txn .completed = false)
      (row : p.orderId = old.id ∧ p.outcome = .completed ∧ p.transactionId = some txn)
      (orders_eq : s'.orders = (s.putOrder old.paid).orders)
      (payments_eq : s'.payments = s.payments ++ [p])
  /-- The payment of an order awaiting it failed, with its record. -/
  | fail {old : Order} {txn : String} {p : Payment} (member : old ∈ s.orders)
      (awaiting : old.status = .pendingPayment)
      (failable : old.paymentStatus = .failed ∨ old.paymentStatus.canStep .failed = true)
      (txnNamed : named txn) (fresh : s.recorded txn .failed = false)
      (row : p.orderId = old.id ∧ p.outcome = .failed ∧ p.transactionId = some txn)
      (orders_eq : s'.orders = (s.putOrder { old with paymentStatus := .failed }).orders)
      (payments_eq : s'.payments = s.payments ++ [p])
  /-- A refunded charge recorded, the order as it was. -/
  | refund {old : Order} {txn : String} {p : Payment} (member : old ∈ s.orders)
      (txnNamed : named txn) (fresh : s.recorded txn .refunded = false)
      (row : p.orderId = old.id ∧ p.outcome = .refunded ∧ p.transactionId = some txn)
      (orders_eq : s'.orders = s.orders) (payments_eq : s'.payments = s.payments ++ [p])

namespace Step

variable {named : String → Prop} {s s' : Store}

theorem of_eq (same : s' = s) : Step named s s' :=
  .keep (by rw [same]) (by rw [same])

/-- A change of the carts alone. -/
theorem of_carts (written : { s' with carts := s.carts } = s) : Step named s s' := by
  obtain ⟨-, -, orders_eq, payments_eq, -⟩ := fields_of_with_carts written
  exact .keep orders_eq payments_eq

/-- Stock taken, then an order placed. -/
theorem of_placed {moved : Store} {δ : String → Int} {o : Order} (taken : StockMove s moved δ)
    (placed : Placed moved s' o) : Step named s s' := by
  -- the stock moves leave the orders and the records, so the order is placed over `s`
  have orders_eq : s'.orders = (s.putOrder o).orders := by
    simpa [taken.orders_eq] using congrArg Store.orders placed.stored
  have payments_eq : s'.payments = s.payments := by
    simpa [taken.payments_eq] using congrArg Store.payments placed.stored
  have numbered : o.id = orderToken s.orders.length := by
    rw [placed.numbered, taken.orders_eq]
  exact .place numbered placed.awaiting placed.unpaid placed.holding orders_eq payments_eq

/-- A stored order changed, after which a customer may be told. -/
theorem of_told {old o : Order} (member : old ∈ s.orders) (changed : old.Change o)
    (written : { s' with inbox := s.inbox } = s.putOrder o) : Step named s s' := by
  obtain ⟨-, -, -, orders_eq, payments_eq⟩ := fields_of_with_inbox written
  exact .change member changed orders_eq (by simpa using payments_eq)

/-- A stored order changed, and nothing else. -/
theorem of_written {old o : Order} (member : old ∈ s.orders) (changed : old.Change o)
    (written : s' = s.putOrder o) : Step named s s' :=
  .change member changed (by rw [written]) (by rw [written]; simp)

/-- A cancellation: stock given back, then the order written back cancelled. -/
theorem of_cancelled {moved : Store} {δ : String → Int} {old : Order} {target : OrderStatus}
    (member : old ∈ s.orders) (cancellable : old.status.isCancellable = true)
    (cancelling : target.isCancelled = true) (given : StockMove s moved δ)
    (written : { s' with inbox := s.inbox } =
      moved.putOrder { old.cancelledInto target with stockRestored := true }) :
    Step named s s' := by
  obtain ⟨-, -, -, orders_eq, payments_eq⟩ := fields_of_with_inbox written
  refine .change member (.cancel cancellable cancelling) ?_ ?_
  · simpa [given.orders_eq] using orders_eq
  · simpa [given.payments_eq] using payments_eq

/-- A staff status update: nothing, a cancellation, or a step of a stored order. -/
theorem of_updated {old : Order} {target : OrderStatus} (member : old ∈ s.orders)
    (updated : StatusUpdate s s' old target) : Step named s s' := by
  cases updated with
  | same _ unchanged => exact .of_eq unchanged
  | cancelled _ cancelling cancellable given written =>
    exact .of_cancelled member cancellable cancelling given written
  | stepped _ notCancelling allowed written =>
    exact .of_told member (.step allowed notCancelling) written

end Step

end Store

namespace Market

open Store

variable {named : String → Prop} {s s' : Store} {r : String}

/-- Applying a completed checkout pays the order it names, or does nothing. -/
theorem ConfirmCheckout.step {c : ConfirmCheckout} (effect : c.Effect s r s')
    (txnNamed : named (orElse c.paymentIntentId c.sessionId)) : Step named s s' := by
  obtain duplicate | ⟨-, old, member, -, -, fresh, payable, amount, p, recorded, written⟩ := effect
  · exact .of_eq duplicate.2
  · have orders_eq := congrArg Store.orders written
    have payments_eq := congrArg Store.payments written
    exact .pay member payable txnNamed fresh (Payment.record_ok recorded) orders_eq payments_eq

/-- Applying a failed payment fails the payment of the order it names, or does nothing. -/
theorem RecordFailedPayment.step {c : RecordFailedPayment} (effect : c.Effect s r s')
    (txnNamed : named c.paymentIntentId) : Step named s s' := by
  obtain unchanged | ⟨-, old, member, -, awaiting, fresh, failable, amount, p, recorded, written⟩ :=
    effect
  · exact .of_eq unchanged.2
  · have orders_eq := congrArg Store.orders written
    have payments_eq := congrArg Store.payments written
    exact .fail member awaiting failable txnNamed fresh (Payment.record_ok recorded) orders_eq
      payments_eq

/-- Applying a refunded charge records it, or does nothing. -/
theorem RecordChargeRefund.step {c : RecordChargeRefund} (effect : c.Effect s r s')
    (txnNamed : named c.chargeId) : Step named s s' := by
  obtain duplicate | ⟨-, old, member, -, fresh, amount, p, recorded, written⟩ := effect
  · exact .of_eq duplicate.2
  · exact .refund member txnNamed fresh (Payment.record_ok recorded) (by rw [written])
      (by rw [written])

/-- A reconciled event takes a step whose records name their transactions. -/
theorem step_of_event {orderId : String} {ev : Webhook.Event}
    (effect : eventEffect orderId ev s r s') : Step (· ≠ "") s s' := by
  cases ev with
  | checkoutCompleted e =>
    obtain ⟨c, built, effect⟩ := effect
    exact ConfirmCheckout.step effect (ConfirmCheckout.transaction_named built)
  | paymentFailed e =>
    obtain ⟨c, built, effect⟩ := effect
    exact RecordFailedPayment.step effect (RecordFailedPayment.intent_named built)
  | chargeRefunded e =>
    obtain ⟨c, built, effect⟩ := effect
    exact RecordChargeRefund.step effect (RecordChargeRefund.charge_named built)
  | unhandled => exact .of_eq effect.2

/-- Every request takes a step whose records name their transactions, whether it succeeds or
fails. -/
theorem request_step (r : Request) (s₀ : Store) :
    ⦃fun m => ⌜m.store = s₀⌝⦄ r.run
    ⦃post⟨fun _ m => ⌜Step (· ≠ "") s₀ m.store⌝, fun _ m => ⌜Step (· ≠ "") s₀ m.store⌝⟩⦄ := by
  have unchanged : Step (· ≠ "") s₀ s₀ := .of_eq rfl
  refine RequestCases.holds
    { start := unchanged
      carts := .of_carts
      placing := ?_
      checkingOut := ?_
      cancelled := ?_
      updated := .of_updated
      tracked := ?_
      session := ?_
      reconciled := step_of_event } r
  · intro given
    exact holds_of_spec (Command.placeOrder_spec given s₀)
      (by rintro _ _ ⟨_, taken, placed⟩; exact .of_placed taken placed) unchanged
  · intro given
    exact holds_of_spec (Command.checkoutCart_spec given s₀)
      (by rintro _ _ ⟨_, taken, placed⟩; exact .of_placed taken placed) unchanged
  · intro _ _ _ member cancellable given written
    exact .of_cancelled member cancellable rfl given written
  · intro _ _ t member trackable written
    exact .of_told member (.track t trackable) written
  · intro _ _ session member awaiting written
    exact .of_written member (.session session awaiting) written

/-- Every reconciliation takes a step, whether it succeeds or fails. -/
theorem reconciliation_step (c : Reconciliation) (s₀ : Store) :
    ⦃fun m => ⌜m.store = s₀⌝⦄ c.run
    ⦃post⟨fun _ m => ⌜Step (fun _ => True) s₀ m.store⌝,
      fun _ m => ⌜Step (fun _ => True) s₀ m.store⌝⟩⦄ := by
  have unchanged : Step (fun _ => True) s₀ s₀ := .of_eq rfl
  cases c with
  | recordSession orderId sessionId =>
    exact holds_of_spec (recordSession_spec orderId sessionId s₀)
      (fun _ _ ⟨_, member, _, awaiting, session, written⟩ =>
        .of_written member (.session session awaiting) written) unchanged
  | confirmCheckout c =>
    have spec := holds_of_spec (unitOfWork_spec (confirmCheckout_spec c s₀))
      (fun _ _ effect => ConfirmCheckout.step effect trivial) unchanged
    mvcgen [Reconciliation.run, spec]
  | recordFailedPayment c =>
    have spec := holds_of_spec (unitOfWork_spec (recordFailedPayment_spec c s₀))
      (fun _ _ effect => RecordFailedPayment.step effect trivial) unchanged
    mvcgen [Reconciliation.run, spec]
  | recordChargeRefund c =>
    have spec := holds_of_spec (unitOfWork_spec (recordChargeRefund_spec c s₀))
      (fun _ _ effect => RecordChargeRefund.step effect trivial) unchanged
    mvcgen [Reconciliation.run, spec]

theorem step_run (r : Request) (m : Market) : Step (· ≠ "") m.store (run r.run m).2.store :=
  store_of_triple (P := fun m' => m'.store = m.store) rfl (request_step r m.store)

theorem reconciliation_step_run (c : Reconciliation) (m : Market) :
    Step (fun _ => True) m.store (run c.run m).2.store :=
  store_of_triple (P := fun m' => m'.store = m.store) rfl (reconciliation_step c m.store)

variable {start m : Market}

/-- A run of requests and reconciliations goes on by one more request. -/
theorem Reachable.request (r : Request)
    (reached : Reachable (Sum.elim Request.run Reconciliation.run) start m) :
    Reachable (Sum.elim Request.run Reconciliation.run) start (run r.run m).2 :=
  .step (Sum.inl r) reached

/-- A run of requests and reconciliations goes on by one more reconciliation. -/
theorem Reachable.reconcile (c : Reconciliation)
    (reached : Reachable (Sum.elim Request.run Reconciliation.run) start m) :
    Reachable (Sum.elim Request.run Reconciliation.run) start (run c.run m).2 :=
  .step (Sum.inr c) reached

end Market

end Bazaar
