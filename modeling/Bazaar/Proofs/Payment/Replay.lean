import Mathlib
import Bazaar.Proofs.Payment.Checked

/-!
# A replayed webhook changes nothing

The gateway may deliver a webhook again. Take any market and a delivery that returns a receipt;
deliver the same body with the same signature to the market it left. The second delivery returns a
receipt that is not `processed`, and leaves the market exactly as it found it: orders, payment
records, carts, stock and notifications alike. A delivery that is refused leaves the market as it
was.

Two facts carry the proof. A delivery that is not processed changes nothing at all
(`Market.receiveWebhook_settled`), so delivering it again does the same thing again. A delivery
that is processed adds a record for its transaction and outcome, and changes only the store and the
notifier, so the signature checks again and each handler finds the record and answers without
writing (`Market.receiveWebhook_replay`).
-/

open Std.Do

set_option mvcgen.warning false

namespace Bazaar

namespace Market

open Store

/-! ## A delivery that is not processed changes nothing -/

/-- Applying a completed checkout that is not processed changes nothing; one that fails has
changed at most the store. -/
theorem confirmCheckout_settled (c : ConfirmCheckout) (m₀ : Market) :
    ⦃fun m => ⌜m = m₀⌝⦄ confirmCheckout c
    ⦃post⟨fun r m => ⌜(r ≠ "processed" → m = m₀) ∧ m.gateway = m₀.gateway ∧ m.clock = m₀.clock⌝,
      fun _ m => ⌜{ m with store := m₀.store } = m₀⌝⟩⦄ := by
  unfold confirmCheckout
  generalize Money.roundFloat = roundPrice
  mvcgen
  all_goals simp_all
  -- the customer of the paid order is told: the cart and the notifier changed, nothing else
  grind

theorem recordFailedPayment_settled (c : RecordFailedPayment) (m₀ : Market) :
    ⦃fun m => ⌜m = m₀⌝⦄ recordFailedPayment c
    ⦃post⟨fun r m => ⌜(r ≠ "processed" → m = m₀) ∧ m.gateway = m₀.gateway ∧ m.clock = m₀.clock⌝,
      fun _ m => ⌜{ m with store := m₀.store } = m₀⌝⟩⦄ := by
  unfold recordFailedPayment
  generalize Money.roundFloat = roundPrice
  mvcgen
  all_goals simp_all
  grind

theorem recordChargeRefund_settled (c : RecordChargeRefund) (m₀ : Market) :
    ⦃fun m => ⌜m = m₀⌝⦄ recordChargeRefund c
    ⦃post⟨fun r m => ⌜(r ≠ "processed" → m = m₀) ∧ m.gateway = m₀.gateway ∧ m.clock = m₀.clock⌝,
      fun _ m => ⌜{ m with store := m₀.store } = m₀⌝⟩⦄ := by
  unfold recordChargeRefund
  generalize Money.roundFloat = roundPrice
  mvcgen
  all_goals simp_all

theorem reconcile_settled (orderId : String) (ev : Webhook.Event) (m₀ : Market) :
    ⦃fun m => ⌜m = m₀⌝⦄ reconcile orderId ev
    ⦃post⟨fun r m => ⌜(r ≠ "processed" → m = m₀) ∧ m.gateway = m₀.gateway ∧ m.clock = m₀.clock⌝,
      fun _ m => ⌜m = m₀⌝⟩⦄ := by
  cases ev with
  | checkoutCompleted e =>
    mvcgen [reconcile, unitOfWork_restores, confirmCheckout_settled]
    all_goals simp_all
  | paymentFailed e =>
    mvcgen [reconcile, unitOfWork_restores, recordFailedPayment_settled]
    all_goals simp_all
  | chargeRefunded e =>
    mvcgen [reconcile, unitOfWork_restores, recordChargeRefund_settled]
    all_goals simp_all
  | unhandled =>
    mvcgen [reconcile]
    simp_all

/-- A delivery that returns a receipt passed the signature check, and changed at most the store
and the notifier; unless it was processed, it changed nothing. A refused delivery changes
nothing. -/
theorem receiveWebhook_settled (body : List UInt8) (signature : String) (m₀ : Market) :
    ⦃fun m => ⌜m = m₀⌝⦄ receiveWebhook body signature
    ⦃post⟨fun rc m => ⌜(rc.status ≠ "processed" → m = m₀) ∧ m.gateway = m₀.gateway ∧
        m.clock = m₀.clock ∧ Webhook.verify body signature m₀.gateway.webhookSecret
          m₀.gateway.tolerance m₀.clock = .ok ()⌝,
      fun _ m => ⌜m = m₀⌝⟩⦄ := by
  mvcgen [receiveWebhook, reconcile_settled]
  all_goals simp_all

/-! ## A processed delivery, delivered again -/

/-- A completed checkout whose transaction has a completed record is a duplicate. -/
theorem confirmCheckout_replay (c : ConfirmCheckout) (m₀ : Market)
    (recorded : m₀.store.recorded (orElse c.paymentIntentId c.sessionId) .completed = true) :
    ⦃fun m => ⌜m = m₀⌝⦄ confirmCheckout c
    ⦃post⟨fun r m => ⌜r ≠ "processed" ∧ m = m₀⌝, fun _ m => ⌜{ m with store := m₀.store } = m₀⌝⟩⦄ := by
  unfold confirmCheckout
  generalize Money.roundFloat = roundPrice
  mvcgen
  all_goals simp_all +zetaDelta

/-- A failed payment whose intent has a failed record is ignored or a duplicate. -/
theorem recordFailedPayment_replay (c : RecordFailedPayment) (m₀ : Market)
    (recorded : m₀.store.recorded c.paymentIntentId .failed = true) :
    ⦃fun m => ⌜m = m₀⌝⦄ recordFailedPayment c
    ⦃post⟨fun r m => ⌜r ≠ "processed" ∧ m = m₀⌝, fun _ m => ⌜{ m with store := m₀.store } = m₀⌝⟩⦄ := by
  unfold recordFailedPayment
  generalize Money.roundFloat = roundPrice
  mvcgen
  all_goals simp_all

/-- A refunded charge with a refund record is a duplicate. -/
theorem recordChargeRefund_replay (c : RecordChargeRefund) (m₀ : Market)
    (recorded : m₀.store.recorded c.chargeId .refunded = true) :
    ⦃fun m => ⌜m = m₀⌝⦄ recordChargeRefund c
    ⦃post⟨fun r m => ⌜r ≠ "processed" ∧ m = m₀⌝, fun _ m => ⌜{ m with store := m₀.store } = m₀⌝⟩⦄ := by
  unfold recordChargeRefund
  generalize Money.roundFloat = roundPrice
  mvcgen
  all_goals simp_all

/-- A processed checkout leaves a completed record for its transaction. -/
theorem ConfirmCheckout.recorded_of_processed {c : ConfirmCheckout} {s₀ s : Store}
    (processed : c.Effect s₀ "processed" s) (named : orElse c.paymentIntentId c.sessionId ≠ "") :
    s.recorded (orElse c.paymentIntentId c.sessionId) .completed = true := by
  obtain ⟨duplicate, -⟩ | ⟨-, old, -, -, -, -, -, amount, p, recordOk, written⟩ := processed
  · exact absurd duplicate (by decide)
  · have payments_eq : s.payments = s₀.payments ++ [p] := by
      simpa using congrArg Store.payments written
    exact recorded_of_append payments_eq named (Payment.record_ok recordOk)

/-- A processed payment failure leaves a failed record for its intent. -/
theorem RecordFailedPayment.recorded_of_processed {c : RecordFailedPayment} {s₀ s : Store}
    (processed : c.Effect s₀ "processed" s) (named : c.paymentIntentId ≠ "") :
    s.recorded c.paymentIntentId .failed = true := by
  obtain ⟨unprocessed, -⟩ | ⟨-, old, -, -, -, -, -, amount, p, recordOk, written⟩ := processed
  · exact absurd unprocessed (by decide)
  · have payments_eq : s.payments = s₀.payments ++ [p] := by
      simpa using congrArg Store.payments written
    exact recorded_of_append payments_eq named (Payment.record_ok recordOk)

/-- A processed refund leaves a refund record for its charge. -/
theorem RecordChargeRefund.recorded_of_processed {c : RecordChargeRefund} {s₀ s : Store}
    (processed : c.Effect s₀ "processed" s) (named : c.chargeId ≠ "") :
    s.recorded c.chargeId .refunded = true := by
  obtain ⟨duplicate, -⟩ | ⟨-, old, -, -, -, amount, p, recordOk, written⟩ := processed
  · exact absurd duplicate (by decide)
  · have payments_eq : s.payments = s₀.payments ++ [p] := by rw [written]
    exact recorded_of_append payments_eq named (Payment.record_ok recordOk)

/-- Reconciling again an event whose reconciliation was processed is not processed and changes
nothing. -/
theorem reconcile_replay (orderId : String) (ev : Webhook.Event) {s₀ : Store} (m₀ : Market)
    (replayed : eventEffect orderId ev s₀ "processed" m₀.store) :
    ⦃fun m => ⌜m = m₀⌝⦄ reconcile orderId ev
    ⦃post⟨fun r m => ⌜r ≠ "processed" ∧ m = m₀⌝, fun _ m => ⌜m = m₀⌝⟩⦄ := by
  cases ev with
  | checkoutCompleted e =>
    obtain ⟨c, built, processed⟩ := replayed
    have recorded :=
      ConfirmCheckout.recorded_of_processed processed (ConfirmCheckout.transaction_named built)
    simp only [reconcile, built, lift, pure_bind]
    exact unitOfWork_restores (confirmCheckout_replay c m₀ recorded)
  | paymentFailed e =>
    obtain ⟨c, built, processed⟩ := replayed
    have recorded :=
      RecordFailedPayment.recorded_of_processed processed (RecordFailedPayment.intent_named built)
    simp only [reconcile, built, lift, pure_bind]
    exact unitOfWork_restores (recordFailedPayment_replay c m₀ recorded)
  | chargeRefunded e =>
    obtain ⟨c, built, processed⟩ := replayed
    have recorded :=
      RecordChargeRefund.recorded_of_processed processed (RecordChargeRefund.charge_named built)
    simp only [reconcile, built, lift, pure_bind]
    exact unitOfWork_restores (recordChargeRefund_replay c m₀ recorded)
  | unhandled => exact absurd replayed.1 (by decide)

/-- Delivering again a webhook whose delivery was processed, with the signature still good, is
not processed and changes nothing. -/
theorem receiveWebhook_replay (body : List UInt8) (signature : String) {s₀ : Store} (m₀ : Market)
    (verified : Webhook.verify body signature m₀.gateway.webhookSecret m₀.gateway.tolerance
      m₀.clock = .ok ())
    (replayed : ∃ ev orderId, Webhook.decode body = .ok ev ∧ ev.orderId = some orderId ∧
      eventEffect orderId ev s₀ "processed" m₀.store) :
    ⦃fun m => ⌜m = m₀⌝⦄ receiveWebhook body signature
    ⦃post⟨fun rc m => ⌜rc.status ≠ "processed" ∧ m = m₀⌝, fun _ _ => ⌜False⌝⟩⦄ := by
  obtain ⟨ev, orderId, decoded, named, effect⟩ := replayed
  mvcgen [receiveWebhook, reconcile_replay]
  all_goals simp_all

/-- A replayed webhook changes nothing: after a delivery that returns a receipt, delivering the
same body with the same signature again returns a receipt that is not `processed` and leaves the
market exactly as the first delivery left it. A delivery that is refused leaves the market as it
was. -/
theorem webhook_replay_changes_nothing (m₀ : Market) (body : List UInt8) (signature : String) :
    match run (receiveWebhook body signature) m₀ with
    | (.ok _, m₁) => ∃ rc, run (receiveWebhook body signature) m₁ = (.ok rc, m₁) ∧
        rc.status ≠ "processed"
    | (.error _, m₁) => m₁ = m₀ := by
  have settled := run_of_triple (P := fun m => m = m₀) rfl (receiveWebhook_settled body signature m₀)
  have effect := run_of_triple (P := fun m => m.store = m₀.store) rfl
    (receiveWebhook_spec body signature m₀.store)
  rcases first : run (receiveWebhook body signature) m₀ with ⟨_ | rc₁, m₁⟩
  · simp only [first] at settled ⊢
    exact settled
  · simp only [first] at settled effect ⊢
    obtain ⟨unchanged, sameGateway, sameClock, verified⟩ := settled
    by_cases processed : rc₁.status = "processed"
    · -- the first delivery was processed: the second finds the record it added
      obtain ⟨notProcessed, -⟩ | ⟨ev, orderId, decoded, named, reconciled⟩ := effect
      · exact absurd processed notProcessed
      rw [processed] at reconciled
      have stillVerified : Webhook.verify body signature m₁.gateway.webhookSecret
          m₁.gateway.tolerance m₁.clock = .ok () := by
        rw [sameGateway, sameClock]
        exact verified
      have replay := run_of_triple (P := fun m => m = m₁) rfl
        (receiveWebhook_replay body signature m₁ stillVerified ⟨ev, orderId, decoded, named, reconciled⟩)
      rcases second : run (receiveWebhook body signature) m₁ with ⟨_ | rc₂, m₂⟩
      · simp only [second] at replay
      · simp only [second] at replay
        obtain ⟨notProcessed, rfl⟩ := replay
        exact ⟨rc₂, rfl, notProcessed⟩
    · -- the first delivery changed nothing, so the second does what the first did
      have same := unchanged processed
      subst same
      exact ⟨rc₁, first, processed⟩

end Market

end Bazaar
