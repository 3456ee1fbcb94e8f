import Mathlib
import Bazaar.Proofs.Market.Steps

/-!
# The payment log is exactly-once

Webhooks arrive at least once and in any order, so the gateway may report a payment, a failure or
a refund many times. The log still records each at most once. Start from a store with no orders and
no payment records and run any requests, webhooks among them, each succeeding or failing. In every
store reached:

* each order has at most one completed payment record;
* each transaction has at most one record of each outcome;
* an order with a completed record has its payment completed or refunded.

The invariant `Store.LogExactlyOnce` adds what the step needs: the orders are numbered, every
record is for a stored order and names its transaction. Three facts carry the proof. A payment is
completed only from a payment that may still move to completed, which a completed or refunded one
cannot; a payment fails only from one that may move to failed, which a completed or refunded one
cannot either; and a record is added only for a transaction with no record of that outcome.
-/

namespace Bazaar

namespace PaymentStatus

/-- A payment whose money was captured: completed, or refunded since. -/
def Captured (ps : PaymentStatus) : Prop :=
  ps = .completed ∨ ps = .refunded

theorem Captured.not_payable {ps : PaymentStatus} (captured : ps.Captured) :
    ps.canStep .completed = false := by
  rcases captured with rfl | rfl <;> rfl

theorem Captured.not_failable {ps : PaymentStatus} (captured : ps.Captured) :
    ¬(ps = .failed ∨ ps.canStep .failed = true) := by
  rcases captured with rfl | rfl <;> simp [canStep]

end PaymentStatus

namespace Order

/-- The changes of an order outside its payment keep a captured payment captured: a cancellation
refunds it, and the other changes leave it. -/
theorem Change.captured {old o : Order} (changed : old.Change o)
    (captured : old.paymentStatus.Captured) : o.paymentStatus.Captured := by
  cases changed with
  | cancel =>
    rcases captured with completed | refunded
    · simp [cancelledInto, completed, PaymentStatus.isRefundable, PaymentStatus.Captured]
    · simp [cancelledInto, refunded, PaymentStatus.isRefundable, PaymentStatus.Captured]
  | step =>
    rcases captured with completed | refunded
    · simp [steppedTo, completed, PaymentStatus.Captured]
    · simp [steppedTo, refunded, PaymentStatus.Captured]
  | track => exact captured
  | session => exact captured

end Order

namespace Store

/-- The order `id` has a completed payment record. -/
def PaidFor (s : Store) (id : String) : Prop :=
  ∃ p ∈ s.payments, p.orderId = id ∧ p.outcome = .completed

/-- The invariant of the payment log. -/
structure LogExactlyOnce (s : Store) : Prop where
  numbered : s.OrdersNumbered
  owned : ∀ p ∈ s.payments, p.orderId ∈ s.orders.map (·.id)
  named : ∀ p ∈ s.payments, p.transactionId ≠ some ""
  captured : ∀ o ∈ s.orders, s.PaidFor o.id → o.paymentStatus.Captured
  oncePerOrder : ∀ id, s.payments.countP (fun p => p.orderId = id ∧ p.outcome = .completed) ≤ 1
  oncePerTransaction : ∀ txn outcome,
    s.payments.countP (fun p => p.transactionId = some txn ∧ p.outcome = outcome) ≤ 1

theorem LogExactlyOnce.start {s : Store} (noOrders : s.orders = []) (noPayments : s.payments = []) :
    s.LogExactlyOnce where
  numbered := ordersNumbered_of_orders_nil noOrders
  owned := by simp [noPayments]
  named := by simp [noPayments]
  captured := by simp [noOrders]
  oncePerOrder := by simp [noPayments]
  oncePerTransaction := by simp [noPayments]

section Steps

variable {s s' : Store}

theorem paidFor_of_payments_eq (payments_eq : s'.payments = s.payments) {id : String}
    (paid : s'.PaidFor id) : s.PaidFor id := by
  rwa [PaidFor, ← payments_eq]

/-- A record that does not count as a completed payment of `id` adds none. -/
theorem paidFor_of_append {p : Payment} {id : String}
    (payments_eq : s'.payments = s.payments ++ [p])
    (uncounted : ¬(p.orderId = id ∧ p.outcome = .completed)) (paid : s'.PaidFor id) :
    s.PaidFor id := by
  obtain ⟨q, recorded, forOrder, completed⟩ := paid
  rw [payments_eq, List.mem_append, List.mem_singleton] at recorded
  rcases recorded with old | rfl
  · exact ⟨q, old, forOrder, completed⟩
  · exact absurd ⟨forOrder, completed⟩ uncounted

/-- After an order is written back, the orders it did not replace keep their captured payments,
as long as the log gives no other order a new completed record. -/
theorem LogExactlyOnce.captured_putOrder (inv : s.LogExactlyOnce) {o : Order}
    (orders_eq : s'.orders = (s.putOrder o).orders)
    (written : s'.PaidFor o.id → o.paymentStatus.Captured)
    (before : ∀ id, id ≠ o.id → s'.PaidFor id → s.PaidFor id) :
    ∀ o' ∈ s'.orders, s'.PaidFor o'.id → o'.paymentStatus.Captured := by
  intro o' member paid
  rw [orders_eq, putOrder_orders] at member
  by_cases same : o' = o
  · subst same
    exact written paid
  · obtain ⟨stored, otherId⟩ := mem_upsert_of_ne member same
    exact inv.captured o' stored (before o'.id otherId paid)

/-- Writing an order back under a stored identifier keeps every record's order stored. -/
theorem LogExactlyOnce.owned_putOrder (inv : s.LogExactlyOnce) {o : Order}
    (orders_eq : s'.orders = (s.putOrder o).orders)
    (rows : ∀ p ∈ s'.payments, p ∈ s.payments ∨ p.orderId ∈ s.orders.map (·.id)) :
    ∀ p ∈ s'.payments, p.orderId ∈ s'.orders.map (·.id) := by
  intro p recorded
  rw [orders_eq, putOrder_orders]
  apply key_mem_upsert
  rcases rows p recorded with old | stored
  · exact inv.owned p old
  · exact stored

/-- A record for a named transaction with no record of its outcome keeps every transaction at
one record of each outcome. -/
theorem LogExactlyOnce.oncePerTransaction_append (inv : s.LogExactlyOnce) {p : Payment}
    {txn : String} (payments_eq : s'.payments = s.payments ++ [p]) (named : txn ≠ "")
    (fresh : s.recorded txn p.outcome = false) (txnOf : p.transactionId = some txn) :
    ∀ txn' outcome,
      s'.payments.countP (fun q => q.transactionId = some txn' ∧ q.outcome = outcome) ≤ 1 := by
  intro txn' outcome
  rw [payments_eq, List.countP_append]
  by_cases counted : p.transactionId = some txn' ∧ p.outcome = outcome
  · -- the new record is the first of its transaction and outcome
    obtain ⟨sameTxn, rfl⟩ := counted
    rw [txnOf, Option.some.injEq] at sameTxn
    subst sameTxn
    have none : s.payments.countP (fun q => q.transactionId = some txn ∧ q.outcome = p.outcome) =
        0 := by
      rw [List.countP_eq_zero]
      intro q recorded counted
      exact (recorded_eq_false named).1 fresh q recorded (by simpa using counted)
    rw [none]
    simp [txnOf]
  · simpa [counted] using inv.oncePerTransaction txn' outcome

/-- A record that is no completed payment keeps each order at one completed record. -/
theorem LogExactlyOnce.oncePerOrder_append (inv : s.LogExactlyOnce) {p : Payment}
    (payments_eq : s'.payments = s.payments ++ [p]) (notCompleted : p.outcome ≠ .completed) :
    ∀ id, s'.payments.countP (fun q => q.orderId = id ∧ q.outcome = .completed) ≤ 1 := by
  intro id
  simpa [payments_eq, List.countP_append, notCompleted] using inv.oncePerOrder id

/-- A record for a named transaction keeps every record naming its transaction. -/
theorem LogExactlyOnce.named_append (inv : s.LogExactlyOnce) {p : Payment} {txn : String}
    (payments_eq : s'.payments = s.payments ++ [p]) (named : txn ≠ "")
    (txnOf : p.transactionId = some txn) : ∀ q ∈ s'.payments, q.transactionId ≠ some "" := by
  intro q recorded
  rw [payments_eq, List.mem_append, List.mem_singleton] at recorded
  rcases recorded with old | rfl
  · exact inv.named q old
  · simpa [txnOf] using named

/-- After a record for a stored order is appended, each record is an old one or is for a stored
order. -/
theorem rows_of_append {p : Payment} {old : Order} (payments_eq : s'.payments = s.payments ++ [p])
    (member : old ∈ s.orders) (forOrder : p.orderId = old.id) :
    ∀ q ∈ s'.payments, q ∈ s.payments ∨ q.orderId ∈ s.orders.map (·.id) := by
  intro q recorded
  rw [payments_eq, List.mem_append, List.mem_singleton] at recorded
  rcases recorded with old | rfl
  · exact .inl old
  · exact .inr (forOrder ▸ List.mem_map_of_mem member)

theorem LogExactlyOnce.keep (inv : s.LogExactlyOnce) (orders_eq : s'.orders = s.orders)
    (payments_eq : s'.payments = s.payments) : s'.LogExactlyOnce where
  numbered := ordersNumbered_of_orders_eq orders_eq inv.numbered
  owned := by rw [orders_eq, payments_eq]; exact inv.owned
  named := by rw [payments_eq]; exact inv.named
  captured := by
    intro o member paid
    rw [orders_eq] at member
    exact inv.captured o member (paidFor_of_payments_eq payments_eq paid)
  oncePerOrder := by rw [payments_eq]; exact inv.oncePerOrder
  oncePerTransaction := by rw [payments_eq]; exact inv.oncePerTransaction

theorem LogExactlyOnce.place (inv : s.LogExactlyOnce) {o : Order}
    (numbered : o.id = orderToken s.orders.length)
    (orders_eq : s'.orders = (s.putOrder o).orders) (payments_eq : s'.payments = s.payments) :
    s'.LogExactlyOnce where
  numbered := ordersNumbered_of_orders_eq orders_eq (inv.numbered.putOrder_next numbered)
  owned := inv.owned_putOrder orders_eq fun p recorded => .inl (payments_eq ▸ recorded)
  named := by rw [payments_eq]; exact inv.named
  captured := by
    have before : ∀ id, s'.PaidFor id → s.PaidFor id := fun _ =>
      paidFor_of_payments_eq payments_eq
    refine inv.captured_putOrder orders_eq ?_ fun id _ => before id
    -- no record can be for the new order: its identifier is not stored yet
    intro paid
    obtain ⟨p, recorded, forOrder, -⟩ := before o.id paid
    obtain ⟨q, stored, sameId⟩ := List.mem_map.1 (inv.owned p recorded)
    exact absurd (sameId.trans (forOrder.trans numbered)) (inv.numbered.next_fresh q stored)
  oncePerOrder := by rw [payments_eq]; exact inv.oncePerOrder
  oncePerTransaction := by rw [payments_eq]; exact inv.oncePerTransaction

theorem LogExactlyOnce.change (inv : s.LogExactlyOnce) {old o : Order} (member : old ∈ s.orders)
    (changed : old.Change o) (orders_eq : s'.orders = (s.putOrder o).orders)
    (payments_eq : s'.payments = s.payments) : s'.LogExactlyOnce where
  numbered := ordersNumbered_of_orders_eq orders_eq
    (inv.numbered.putOrder_of_mem member changed.id_eq)
  owned := inv.owned_putOrder orders_eq fun p recorded => .inl (payments_eq ▸ recorded)
  named := by rw [payments_eq]; exact inv.named
  captured := by
    have before : ∀ id, s'.PaidFor id → s.PaidFor id := fun _ =>
      paidFor_of_payments_eq payments_eq
    refine inv.captured_putOrder orders_eq ?_ fun id _ => before id
    intro paid
    rw [changed.id_eq] at paid
    exact changed.captured (inv.captured old member (before old.id paid))
  oncePerOrder := by rw [payments_eq]; exact inv.oncePerOrder
  oncePerTransaction := by rw [payments_eq]; exact inv.oncePerTransaction

theorem LogExactlyOnce.pay (inv : s.LogExactlyOnce) {old : Order} {txn : String} {p : Payment}
    (member : old ∈ s.orders) (payable : old.paymentStatus.canStep .completed = true)
    (named : txn ≠ "") (fresh : s.recorded txn .completed = false)
    (row : p.orderId = old.id ∧ p.outcome = .completed ∧ p.transactionId = some txn)
    (orders_eq : s'.orders = (s.putOrder old.paid).orders)
    (payments_eq : s'.payments = s.payments ++ [p]) : s'.LogExactlyOnce := by
  obtain ⟨forOrder, completed, txnOf⟩ := row
  -- the order had no completed record: a captured payment cannot be completed again
  have unpaid : ¬s.PaidFor old.id := fun paid =>
    absurd payable (by simp [(inv.captured old member paid).not_payable])
  refine ⟨?numbered, ?owned, ?named, ?captured, ?oncePerOrder, ?oncePerTransaction⟩
  case numbered =>
    exact ordersNumbered_of_orders_eq orders_eq
      (inv.numbered.putOrder_of_mem member (Order.paid_id old))
  case owned => exact inv.owned_putOrder orders_eq (rows_of_append payments_eq member forOrder)
  case named => exact inv.named_append payments_eq named txnOf
  case captured =>
    refine inv.captured_putOrder orders_eq (fun _ => .inl (Order.paid_paymentStatus old)) ?_
    intro id other paid
    exact paidFor_of_append payments_eq (fun ⟨sameOrder, _⟩ =>
      other (by rw [← sameOrder, forOrder, Order.paid_id])) paid
  case oncePerOrder =>
    intro id
    rw [payments_eq, List.countP_append]
    by_cases same : old.id = id
    · subst same
      have none : s.payments.countP (fun q => q.orderId = old.id ∧ q.outcome = .completed) = 0 := by
        rw [List.countP_eq_zero]
        intro q recorded counted
        exact unpaid ⟨q, recorded, by simpa using counted⟩
      rw [none]
      simp [forOrder, completed]
    · simpa [forOrder, same] using inv.oncePerOrder id
  case oncePerTransaction =>
    exact inv.oncePerTransaction_append payments_eq named (completed ▸ fresh) txnOf

theorem LogExactlyOnce.fail (inv : s.LogExactlyOnce) {old : Order} {txn : String} {p : Payment}
    (member : old ∈ s.orders)
    (failable : old.paymentStatus = .failed ∨ old.paymentStatus.canStep .failed = true)
    (named : txn ≠ "") (fresh : s.recorded txn .failed = false)
    (row : p.orderId = old.id ∧ p.outcome = .failed ∧ p.transactionId = some txn)
    (orders_eq : s'.orders = (s.putOrder { old with paymentStatus := .failed }).orders)
    (payments_eq : s'.payments = s.payments ++ [p]) : s'.LogExactlyOnce := by
  obtain ⟨forOrder, failed, txnOf⟩ := row
  have notCompleted : p.outcome ≠ .completed := by simp [failed]
  have before : ∀ id, s'.PaidFor id → s.PaidFor id := fun id =>
    paidFor_of_append payments_eq fun ⟨_, completed⟩ => notCompleted completed
  refine ⟨?numbered, ?owned, ?named, ?captured, ?oncePerOrder, ?oncePerTransaction⟩
  case numbered =>
    exact ordersNumbered_of_orders_eq orders_eq (inv.numbered.putOrder_of_mem member rfl)
  case owned => exact inv.owned_putOrder orders_eq (rows_of_append payments_eq member forOrder)
  case named => exact inv.named_append payments_eq named txnOf
  case captured =>
    refine inv.captured_putOrder orders_eq ?_ fun id _ => before id
    -- an order whose payment may still fail had no completed record
    intro paid
    exact absurd failable (inv.captured old member (before old.id paid)).not_failable
  case oncePerOrder => exact inv.oncePerOrder_append payments_eq notCompleted
  case oncePerTransaction =>
    exact inv.oncePerTransaction_append payments_eq named (failed ▸ fresh) txnOf

theorem LogExactlyOnce.refund (inv : s.LogExactlyOnce) {old : Order} {txn : String} {p : Payment}
    (member : old ∈ s.orders) (named : txn ≠ "") (fresh : s.recorded txn .refunded = false)
    (row : p.orderId = old.id ∧ p.outcome = .refunded ∧ p.transactionId = some txn)
    (orders_eq : s'.orders = s.orders) (payments_eq : s'.payments = s.payments ++ [p]) :
    s'.LogExactlyOnce := by
  obtain ⟨forOrder, refunded, txnOf⟩ := row
  have notCompleted : p.outcome ≠ .completed := by simp [refunded]
  refine ⟨?numbered, ?owned, ?named, ?captured, ?oncePerOrder, ?oncePerTransaction⟩
  case numbered => exact ordersNumbered_of_orders_eq orders_eq inv.numbered
  case owned =>
    intro q recorded
    rw [orders_eq]
    rcases rows_of_append payments_eq member forOrder q recorded with old | stored
    · exact inv.owned q old
    · exact stored
  case named => exact inv.named_append payments_eq named txnOf
  case captured =>
    intro o stored paid
    rw [orders_eq] at stored
    exact inv.captured o stored
      (paidFor_of_append payments_eq (fun ⟨_, completed⟩ => notCompleted completed) paid)
  case oncePerOrder => exact inv.oncePerOrder_append payments_eq notCompleted
  case oncePerTransaction =>
    exact inv.oncePerTransaction_append payments_eq named (refunded ▸ fresh) txnOf

/-- Every step whose records name their transactions keeps the invariant. -/
theorem LogExactlyOnce.step (inv : s.LogExactlyOnce) (step : Step (· ≠ "") s s') :
    s'.LogExactlyOnce := by
  cases step with
  | keep orders_eq payments_eq => exact inv.keep orders_eq payments_eq
  | place numbered _ _ _ orders_eq payments_eq => exact inv.place numbered orders_eq payments_eq
  | change member changed orders_eq payments_eq =>
    exact inv.change member changed orders_eq payments_eq
  | pay member payable named fresh row orders_eq payments_eq =>
    exact inv.pay member payable named fresh row orders_eq payments_eq
  | fail member _ failable named fresh row orders_eq payments_eq =>
    exact inv.fail member failable named fresh row orders_eq payments_eq
  | refund member named fresh row orders_eq payments_eq =>
    exact inv.refund member named fresh row orders_eq payments_eq

end Steps

end Store

namespace Market

open Store

/-- Every market reached by requests from a store without orders or payment records keeps the
invariant of the log. -/
theorem logExactlyOnce_of_reachable {start m : Market} (noOrders : start.store.orders = [])
    (noPayments : start.store.payments = []) (reached : Reachable Request.run start m) :
    m.store.LogExactlyOnce := by
  induction reached with
  | start => exact .start noOrders noPayments
  | step r _ ih => exact ih.step (step_run r _)

/-- The payment log is exactly-once: in every market reached by requests and webhooks from a
store without orders or payment records, each order has at most one completed payment record, each
transaction at most one record of each outcome, and an order with a completed record has its
payment completed or refunded. -/
theorem payment_log_exactly_once {start m : Market} (noOrders : start.store.orders = [])
    (noPayments : start.store.payments = []) (reached : Reachable Request.run start m) :
    (∀ id, m.store.payments.countP (fun p => p.orderId = id ∧ p.outcome = .completed) ≤ 1) ∧
    (∀ txn outcome,
      m.store.payments.countP (fun p => p.transactionId = some txn ∧ p.outcome = outcome) ≤ 1) ∧
    (∀ o ∈ m.store.orders, (∃ p ∈ m.store.payments, p.orderId = o.id ∧ p.outcome = .completed) →
      o.paymentStatus = .completed ∨ o.paymentStatus = .refunded) := by
  have inv := logExactlyOnce_of_reachable noOrders noPayments reached
  exact ⟨inv.oncePerOrder, inv.oncePerTransaction, inv.captured⟩

/-- Placing the sample order and receiving the card processor's signed event that it was paid
records one completed payment and marks the order paid. -/
theorem payment_log_after_a_webhook :
    let m := (run (Request.webhook lampPaidEvent lampPaidHeader).run
      (run (Request.placeOrder lampOrder).run lampShop).2).2
    (lampShop.store.orders = [] ∧ lampShop.store.payments = []) ∧
    (m.store.payments.map Payment.outcome = [.completed] ∧
      m.store.orders.map Order.paymentStatus = [.completed]) ∧
    (∀ id, m.store.payments.countP (fun p => p.orderId = id ∧ p.outcome = .completed) ≤ 1) ∧
    (∀ txn outcome,
      m.store.payments.countP (fun p => p.transactionId = some txn ∧ p.outcome = outcome) ≤ 1) ∧
    (∀ o ∈ m.store.orders, (∃ p ∈ m.store.payments, p.orderId = o.id ∧ p.outcome = .completed) →
      o.paymentStatus = .completed ∨ o.paymentStatus = .refunded) := by
  -- the kernel runs both requests, the signature check and the event's decoding included
  have paid : (run (Request.webhook lampPaidEvent lampPaidHeader).run
        (run (Request.placeOrder lampOrder).run lampShop).2).2.store.payments.map
          Payment.outcome = [.completed] ∧
      (run (Request.webhook lampPaidEvent lampPaidHeader).run
        (run (Request.placeOrder lampOrder).run lampShop).2).2.store.orders.map
          Order.paymentStatus = [.completed] := by
    decide +kernel
  exact ⟨⟨rfl, rfl⟩, paid, payment_log_exactly_once rfl rfl
    (.step (Request.webhook lampPaidEvent lampPaidHeader)
      (.step (Request.placeOrder lampOrder) .start))⟩

end Market

end Bazaar
