import Mathlib
import Bazaar.Proofs.Market.Fulfilment
import Bazaar.Proofs.Market.Carts

/-!
# What the payment commands do to the store

A checkout session is written onto an order awaiting payment. Each gateway callback becomes one
command: a completed checkout pays the order (confirming it, or recording a late payment) and adds
a completed record; a failed payment marks an order awaiting payment and adds a failed record; a
refunded charge adds a refund record. Each command first looks for what a replay would find, the
order's own state or a record for the same transaction, and then changes nothing. The `Effect`
predicates state these outcomes; a webhook has the effect of its decoded event, or none.
-/

open Std.Do

set_option mvcgen.warning false

namespace Bazaar

namespace Store

/-- Whether a payment record with an outcome exists for a transaction; an empty reference has
none. -/
def recorded (s : Store) (transactionId : String) (outcome : PaymentOutcome) : Bool :=
  !transactionId.isEmpty && s.payments.any fun p =>
    p.transactionId == some transactionId && p.outcome.name == outcome.name

end Store

namespace Order

/-- The order after its payment is confirmed: an order awaiting payment moves to processing,
any other keeps its status; the payment is completed. -/
def paid (o : Order) : Order :=
  if o.status = .pendingPayment then { o with status := .processing, paymentStatus := .completed }
  else { o with paymentStatus := .completed }

@[simp] theorem paid_id (o : Order) : o.paid.id = o.id := by
  unfold paid; split <;> rfl

@[simp] theorem paid_customerId (o : Order) : o.paid.customerId = o.customerId := by
  unfold paid; split <;> rfl

@[simp] theorem paid_currency (o : Order) : o.paid.currency = o.currency := by
  unfold paid; split <;> rfl

@[simp] theorem paid_items (o : Order) : o.paid.items = o.items := by
  unfold paid; split <;> rfl

@[simp] theorem paid_stockRestored (o : Order) : o.paid.stockRestored = o.stockRestored := by
  unfold paid; split <;> rfl

@[simp] theorem paid_couponId (o : Order) : o.paid.couponId = o.couponId := by
  unfold paid; split <;> rfl

@[simp] theorem paid_paymentStatus (o : Order) : o.paid.paymentStatus = .completed := by
  unfold paid; split <;> rfl

@[simp] theorem paid_status (o : Order) :
    o.paid.status = if o.status = .pendingPayment then .processing else o.status := by
  unfold paid; split <;> simp_all

end Order

namespace Market

open Store

@[spec]
theorem onOrder_recordCheckoutSession_spec (sessionId : Json) (o₀ : Order) (m₀ : Market) :
    ⦃fun m => ⌜m = m₀⌝⦄ onOrder o₀ (Order.recordCheckoutSession sessionId)
    ⦃post⟨fun r m => ⌜m = m₀ ∧ o₀.status = .pendingPayment ∧
        ∃ session, r.2 = { o₀ with checkoutSessionId := session }⌝, fun _ m => ⌜m = m₀⌝⟩⦄ :=
  onOrder_of_triple (Q := fun _ o => o₀.status = .pendingPayment ∧
      ∃ session, o = { o₀ with checkoutSessionId := session })
    (Order.recordCheckoutSession_spec sessionId o₀) m₀

@[spec]
theorem onOrder_paid_spec (amount transactionId : Json) (o₀ : Order) (m₀ : Market) :
    ⦃fun m => ⌜m = m₀⌝⦄ onOrder o₀ (if (o₀.status == .pendingPayment) = true then
        Order.confirmPayment amount transactionId else Order.recordLatePayment amount transactionId)
    ⦃post⟨fun r m => ⌜m = m₀ ∧ o₀.paymentStatus.canStep .completed ∧ r.2 = o₀.paid⌝,
      fun _ m => ⌜m = m₀⌝⟩⦄ := by
  by_cases awaiting : o₀.status = .pendingPayment
  · have confirmed := onOrder_of_triple (Q := fun _ o => o₀.status.canStep .processing ∧
      o₀.paymentStatus.canStep .completed ∧
      o = { o₀ with status := .processing, paymentStatus := .completed })
      (Order.confirmPayment_spec amount transactionId o₀) m₀
    simp only [awaiting, beq_self_eq_true, if_true]
    mvcgen [confirmed]
    all_goals simp_all [Order.paid]
  · have late := onOrder_of_triple (Q := fun _ o => o₀.paymentStatus.canStep .completed ∧
      o = { o₀ with paymentStatus := .completed })
      (Order.recordLatePayment_spec amount transactionId o₀) m₀
    simp only [awaiting, beq_iff_eq, if_false]
    mvcgen [late]
    all_goals simp_all [Order.paid]

@[spec]
theorem onOrder_recordPaymentFailure_spec (reason : Json) (o₀ : Order) (m₀ : Market) :
    ⦃fun m => ⌜m = m₀⌝⦄ onOrder o₀ (Order.recordPaymentFailure reason)
    ⦃post⟨fun r m => ⌜m = m₀ ∧ o₀.status = .pendingPayment ∧
        (o₀.paymentStatus = .failed ∨ o₀.paymentStatus.canStep .failed) ∧
        r.2 = { o₀ with paymentStatus := .failed }⌝, fun _ m => ⌜m = m₀⌝⟩⦄ :=
  onOrder_of_triple (Q := fun _ o => o₀.status = .pendingPayment ∧
      (o₀.paymentStatus = .failed ∨ o₀.paymentStatus.canStep .failed) ∧
      o = { o₀ with paymentStatus := .failed })
    (Order.recordPaymentFailure_spec reason o₀) m₀

@[spec]
theorem hasPayment_spec (transactionId : String) (outcome : PaymentOutcome) (m₀ : Market) :
    ⦃fun m => ⌜m = m₀⌝⦄ hasPayment transactionId outcome
    ⦃⇓ found m => ⌜m = m₀ ∧ found = m₀.store.recorded transactionId outcome⌝⦄ := by
  mvcgen [hasPayment]
  all_goals simp_all [Store.recorded]

/-- Emptying a cart after a payment writes at most the carts. -/
@[spec]
theorem clearCartAfterPayment_spec (customerId : String) (m₀ : Market) :
    ⦃fun m => ⌜m = m₀⌝⦄ clearCartAfterPayment customerId
    ⦃⇓ _ m => ⌜∃ carts, m = { m₀ with store := { m₀.store with carts } }⌝⦄ := by
  mvcgen [clearCartAfterPayment]
  all_goals simp_all [putCart_eq]
  -- what is left: no cart to empty, and the carts as they were
  all_goals exact ⟨_, rfl⟩

theorem cleared_store {m₀ m : Market}
    (cleared : ∃ carts, m = { m₀ with store := { m₀.store with carts } }) :
    { m.store with carts := m₀.store.carts } = m₀.store := by
  obtain ⟨carts, rfl⟩ := cleared
  rfl

/-- What applying a completed checkout does: nothing for a duplicate (an order already paid and
moved on, or a transaction with a completed record); otherwise the order is paid, one completed
record is added, and the carts and the inbox may change. -/
def ConfirmCheckout.Effect (c : ConfirmCheckout) (s₀ : Store) (r : String) (s : Store) : Prop :=
  (r = "duplicate" ∧ s = s₀) ∨
  (r = "processed" ∧ ∃ old ∈ s₀.orders, old.id = c.orderId ∧
    old.isDuplicatePaymentConfirmation = false ∧
    s₀.recorded (orElse c.paymentIntentId c.sessionId) .completed = false ∧
    old.paymentStatus.canStep .completed ∧
    ∃ amount p, Payment.record old.id old.customerId amount
        (.str (orElse c.currency old.currency)) .completed
        (.str (orElse c.paymentIntentId c.sessionId)) .null (.str c.gatewayResponse) = .ok p ∧
      { s with carts := s₀.carts, inbox := s₀.inbox } =
        { s₀.putOrder old.paid with payments := s₀.payments ++ [p] })

theorem confirmCheckout_spec (c : ConfirmCheckout) (s₀ : Store) :
    ⦃fun m => ⌜m.store = s₀⌝⦄ confirmCheckout c
    ⦃post⟨fun r m => ⌜c.Effect s₀ r m.store⌝, fun _ _ => ⌜True⌝⟩⦄ := by
  unfold confirmCheckout ConfirmCheckout.Effect
  generalize Money.roundFloat = roundPrice
  mvcgen
  case vc2 =>
    -- a late payment on a cancelled order: no cart to empty and nobody told
    rename_i m₀ atStart old txn m₁ found dup notDup m₂ fresh amount m₃ priced r m₄ paidOrder _ m₅
      stored p m₆ recorded _ cancelledNow m₇ paymentStored
    obtain ⟨same₁, found, named⟩ := found
    obtain ⟨same₂, fresh⟩ := fresh
    obtain ⟨same₄, canPay, paidOrder⟩ := paidOrder
    obtain ⟨same₆, recorded⟩ := recorded
    subst m₁ m₂ m₄ m₅ m₆ m₇ atStart
    rw [paidOrder] at recorded
    simp only [Bool.or_eq_true, not_or, Bool.not_eq_true] at notDup
    refine Or.inr ⟨trivial, old, List.mem_of_find?_eq_some found, named, notDup.1, fresh ▸ notDup.2,
      canPay, amount, p, by simpa using recorded.symm, ?_⟩
    apply Store.ext <;> simp_all
  case vc3 =>
    rename_i m₀ atStart old txn m₁ found dup notDup m₂ fresh amount m₃ priced r m₄ paidOrder _ m₅
      stored p m₆ recorded _ stillOpen m₇ paymentStored _ m₈ cleared _ m₉ told
    replace told := told_store told
    replace cleared := cleared_store cleared
    obtain ⟨same₁, found, named⟩ := found
    obtain ⟨same₂, fresh⟩ := fresh
    obtain ⟨same₄, canPay, paidOrder⟩ := paidOrder
    obtain ⟨same₆, recorded⟩ := recorded
    have clearedFields := Store.fields_of_with_carts cleared
    have toldFields := Store.fields_of_with_inbox told
    subst m₁ m₂ m₄ m₅ m₆ m₇ atStart
    rw [paidOrder] at recorded
    simp only [Bool.or_eq_true, not_or, Bool.not_eq_true] at notDup
    refine Or.inr ⟨trivial, old, List.mem_of_find?_eq_some found, named, notDup.1, fresh ▸ notDup.2,
      canPay, amount, p, by simpa using recorded.symm, ?_⟩
    apply Store.ext <;> simp_all
  all_goals simp_all

/-- What applying a failed payment does: nothing for an order no longer awaiting payment or a
payment with a failed record; otherwise the order's payment fails, one failed record is added,
and the inbox may change. -/
def RecordFailedPayment.Effect (c : RecordFailedPayment) (s₀ : Store) (r : String) (s : Store) :
    Prop :=
  ((r = "ignored" ∨ r = "duplicate") ∧ s = s₀) ∨
  (r = "processed" ∧ ∃ old ∈ s₀.orders, old.id = c.orderId ∧
    old.status = .pendingPayment ∧
    s₀.recorded c.paymentIntentId .failed = false ∧
    (old.paymentStatus = .failed ∨ old.paymentStatus.canStep .failed) ∧
    ∃ amount p, Payment.record old.id old.customerId amount
        (.str (orElse c.currency old.currency)) .failed (.str c.paymentIntentId)
        (.str (orElse c.reason "Payment failed")) (.str c.gatewayResponse) = .ok p ∧
      { s with inbox := s₀.inbox } =
        { s₀.putOrder { old with paymentStatus := .failed } with payments := s₀.payments ++ [p] })

theorem recordFailedPayment_spec (c : RecordFailedPayment) (s₀ : Store) :
    ⦃fun m => ⌜m.store = s₀⌝⦄ recordFailedPayment c
    ⦃post⟨fun r m => ⌜c.Effect s₀ r m.store⌝, fun _ _ => ⌜True⌝⟩⦄ := by
  unfold recordFailedPayment RecordFailedPayment.Effect
  generalize Money.roundFloat = roundPrice
  mvcgen
  case vc3 =>
    rename_i m₀ atStart old awaiting m₁ found dup notDup reason m₂ fresh r m₃ failedOrder _ m₄
      stored amount m₅ priced p m₆ recorded _ m₇ paymentStored _ m₈ told
    replace told := told_store told
    obtain ⟨same₁, found, named⟩ := found
    obtain ⟨same₂, fresh⟩ := fresh
    obtain ⟨same₃, -, failing, failedOrder⟩ := failedOrder
    obtain ⟨same₅, priced⟩ := priced
    obtain ⟨same₆, recorded⟩ := recorded
    have toldFields := Store.fields_of_with_inbox told
    subst m₁ m₂ m₃ m₄ m₅ m₆ m₇ atStart
    rw [failedOrder] at recorded
    refine Or.inr ⟨trivial, old, List.mem_of_find?_eq_some found, named, by simpa using awaiting,
      by rw [← fresh]; simpa using notDup, failing, amount, p, by simpa using recorded.symm, ?_⟩
    apply Store.ext <;> simp_all
  all_goals simp_all

/-- What recording a refunded charge does: nothing for a charge with a refund record; otherwise
one refund record is added. -/
def RecordChargeRefund.Effect (c : RecordChargeRefund) (s₀ : Store) (r : String) (s : Store) :
    Prop :=
  (r = "duplicate" ∧ s = s₀) ∨
  (r = "processed" ∧ ∃ old ∈ s₀.orders, old.id = c.orderId ∧
    s₀.recorded c.chargeId .refunded = false ∧
    ∃ amount p, Payment.record old.id old.customerId amount
        (.str (orElse c.currency old.currency)) .refunded (.str c.chargeId) .null
        (.str c.gatewayResponse) = .ok p ∧
      s = { s₀ with payments := s₀.payments ++ [p] })

theorem recordChargeRefund_spec (c : RecordChargeRefund) (s₀ : Store) :
    ⦃fun m => ⌜m.store = s₀⌝⦄ recordChargeRefund c
    ⦃post⟨fun r m => ⌜c.Effect s₀ r m.store⌝, fun _ _ => ⌜True⌝⟩⦄ := by
  unfold recordChargeRefund RecordChargeRefund.Effect
  generalize Money.roundFloat = roundPrice
  mvcgen
  case vc2 =>
    rename_i m₀ atStart old m₁ found dup notDup m₂ fresh amount m₃ priced p m₄ recorded _ m₅ stored
    obtain ⟨same₁, found, named⟩ := found
    obtain ⟨same₂, fresh⟩ := fresh
    obtain ⟨same₃, priced⟩ := priced
    obtain ⟨same₄, recorded⟩ := recorded
    subst m₁ m₂ m₃ m₄ m₅ atStart
    refine Or.inr ⟨trivial, old, List.mem_of_find?_eq_some found, named,
      by rw [← fresh]; simpa using notDup, amount, p, by simpa using recorded.symm, rfl⟩
  all_goals simp_all

/-- Recording a checkout session on an order awaiting payment writes the session onto it; a
failure leaves the store as it was. -/
theorem recordSession_spec (orderId sessionId : String) (s₀ : Store) :
    ⦃fun m => ⌜m.store = s₀⌝⦄ recordSession orderId sessionId
    ⦃post⟨fun _ m => ⌜∃ old ∈ s₀.orders, old.id = orderId ∧ old.status = .pendingPayment ∧
        ∃ session, m.store = s₀.putOrder { old with checkoutSessionId := session }⌝,
      fun _ m => ⌜m.store = s₀⌝⟩⦄ := by
  mvcgen [recordSession, unitOfWork_spec]
  rename_i m₀ atStart m₁ atWork old m₂ found r m₃ recorded _ m₄
  obtain ⟨same₂, found, named⟩ := found
  obtain ⟨same₃, awaiting, session, written⟩ := recorded
  intro stored
  subst m₂ m₃ m₄ atWork
  rw [written]
  exact ⟨old, List.mem_of_find?_eq_some found, named, awaiting, session, rfl⟩

/-- Asking the gateway for a session writes nothing to the store. -/
@[spec]
theorem openSession_spec (call : GatewayCall) (s₀ : Store) :
    ⦃fun m => ⌜m.store = s₀⌝⦄ openSession call
    ⦃post⟨fun _ m => ⌜m.store = s₀⌝, fun _ m => ⌜m.store = s₀⌝⟩⦄ := by
  mvcgen [openSession]
  all_goals simp_all

@[spec]
theorem ensurePayable_spec (o : Order) (m₀ : Market) :
    ⦃fun m => ⌜m = m₀⌝⦄ ensurePayable o
    ⦃post⟨fun _ m => ⌜m = m₀⌝, fun _ m => ⌜m = m₀⌝⟩⦄ := by
  mvcgen [ensurePayable]
  all_goals simp_all

/-- Opening a checkout session writes at most the session onto the order; a failure, at the
gateway or after it, leaves the store as it was. -/
theorem createSession_spec (orderId requester : String) (successUrl cancelUrl : Json)
    (s₀ : Store) :
    ⦃fun m => ⌜m.store = s₀⌝⦄ createSession orderId requester successUrl cancelUrl
    ⦃post⟨fun _ m => ⌜∃ old ∈ s₀.orders, old.id = orderId ∧ old.status = .pendingPayment ∧
        ∃ session, m.store = s₀.putOrder { old with checkoutSessionId := session }⌝,
      fun _ m => ⌜m.store = s₀⌝⟩⦄ := by
  unfold createSession
  -- the amount is computed by money functions the generator must not evaluate
  generalize Money.toMinorUnits = toMinor
  generalize Money.decimalOfFloat = decimalOf
  mvcgen [recordSession_spec]
  all_goals simp_all

/-- What reconciling a decoded event for an order does: the effect of the command the event
becomes, or nothing for an event that is not handled. -/
def eventEffect (orderId : String) : Webhook.Event → Store → String → Store → Prop
  | .checkoutCompleted e, s₀, r, s =>
    ∃ c, ConfirmCheckout.ofEvent orderId e = .ok c ∧ c.Effect s₀ r s
  | .paymentFailed e, s₀, r, s =>
    ∃ c, RecordFailedPayment.ofEvent orderId e = .ok c ∧ c.Effect s₀ r s
  | .chargeRefunded e, s₀, r, s =>
    ∃ c, RecordChargeRefund.ofEvent orderId e = .ok c ∧ c.Effect s₀ r s
  | .unhandled _ _ _, s₀, r, s => r = "ignored" ∧ s = s₀

theorem reconcile_spec (orderId : String) (ev : Webhook.Event) (s₀ : Store) :
    ⦃fun m => ⌜m.store = s₀⌝⦄ reconcile orderId ev
    ⦃post⟨fun r m => ⌜eventEffect orderId ev s₀ r m.store⌝, fun _ m => ⌜m.store = s₀⌝⟩⦄ := by
  cases ev with
  | checkoutCompleted e =>
    mvcgen [reconcile, unitOfWork_spec, confirmCheckout_spec]
    case vc2 =>
      rename_i m₀ atStart c m₁ built m₂ atWork r m₃
      exact fun effect => ⟨c, built.2.symm, atWork ▸ effect⟩
    all_goals simp_all
  | paymentFailed e =>
    mvcgen [reconcile, unitOfWork_spec, recordFailedPayment_spec]
    case vc2 =>
      rename_i m₀ atStart c m₁ built m₂ atWork r m₃
      exact fun effect => ⟨c, built.2.symm, atWork ▸ effect⟩
    all_goals simp_all
  | chargeRefunded e =>
    mvcgen [reconcile, unitOfWork_spec, recordChargeRefund_spec]
    case vc2 =>
      rename_i m₀ atStart c m₁ built m₂ atWork r m₃
      exact fun effect => ⟨c, built.2.symm, atWork ▸ effect⟩
    all_goals simp_all
  | unhandled => mvcgen [reconcile, eventEffect]

/-- A webhook either is not processed and leaves the store as it was (ignored or failed), or has
the effect of its decoded event on the order it names. -/
theorem receiveWebhook_spec (body : List UInt8) (signature : String) (s₀ : Store) :
    ⦃fun m => ⌜m.store = s₀⌝⦄ receiveWebhook body signature
    ⦃post⟨fun rc m => ⌜(rc.status ≠ "processed" ∧ m.store = s₀) ∨ ∃ ev orderId, Webhook.decode body = .ok ev ∧
        ev.orderId = some orderId ∧ eventEffect orderId ev s₀ rc.status m.store⌝,
      fun _ m => ⌜m.store = s₀⌝⟩⦄ := by
  mvcgen [receiveWebhook, reconcile_spec]
  all_goals simp_all
  -- what is left: a reconciled event, with the order it names
  rename_i _ ev orderId m₁ status m _ _ named nonempty decoded effect
  exact Or.inr ⟨ev, decoded.2.symm, orderId, named, effect⟩

/-- The card processor's event that the checkout session `cs_1` of the first order placed was
paid: 45.00, in cents. -/
def lampPaidEvent : List UInt8 :=
  Text.utf8Bytes ("\x7b\"id\": \"evt_1\", \"type\": \"checkout.session.completed\", " ++
    "\"data\": \x7b\"object\": \x7b\"id\": \"cs_1\", \"amount_total\": 4500, \"currency\": \"usd\", " ++
    "\"payment_intent\": \"pi_1\", \"metadata\": \x7b\"order_id\": \"" ++ Store.orderToken 0 ++
    "\"\x7d\x7d\x7d\x7d")

/-- The event's signature under the test secret, written at the clock. -/
def lampPaidHeader : String :=
  Webhook.header lampPaidEvent "whsec_test_secret" "1794528000"

/-- The same completed checkout given directly, as a reconciliation command. -/
def lampCheckout : ConfirmCheckout where
  orderId := Store.orderToken 0
  sessionId := "cs_1"
  paymentIntentId := some "pi_1"
  amount := 45.0
  currency := some "usd"
  gatewayResponse := "checkout.session.completed"

end Market

end Bazaar
