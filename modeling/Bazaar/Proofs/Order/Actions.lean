import Mathlib
import Bazaar.Market.Request

/-!
# What the order actions do

Each action on an order either fails or leaves the order in one exact shape, fixed by the order it
started from: a cancellation moves it into the cancellation and refunds a captured payment,
confirming a payment moves it to processing with the payment completed, and so on. The triples
here state those shapes; the events an action raises and what it did before failing are not
looked at, since a failed action is never stored.

Every action but the stock mark keeps the order's identifier, lines and stock mark; the stock mark
is only ever set, never cleared.
-/

open Std.Do

set_option mvcgen.warning false

namespace Bazaar

instance : LawfulBEq OrderStatus where
  eq_of_beq {a b} := by cases a <;> cases b <;> decide
  rfl {a} := by cases a <;> decide

instance : LawfulBEq PaymentStatus where
  eq_of_beq {a b} := by cases a <;> cases b <;> decide
  rfl {a} := by cases a <;> decide

namespace OrderAction

variable {α : Type}

/-- A triple from the order `o₀` describes the outcome of running the action on it. -/
theorem run_of_triple {act : OrderAction α} {o₀ : Order} {Q : α → Order → Prop}
    (spec : ⦃fun st => ⌜st.1 = o₀⌝⦄ act ⦃post⟨fun a st => ⌜Q a st.1⌝, fun _ _ => ⌜True⌝⟩⦄)
    {a : α} {o : Order} {es : List OrderEvent} (ran : run act o₀ = (.ok a, o, es)) : Q a o := by
  have atStart := spec (o₀, []) rfl
  simp only [wp, run, Id.run] at atStart ran
  rcases outcome : StateT.run (ExceptT.run act) (o₀, []) with ⟨_ | b, o', es'⟩ <;>
    simp_all [PredTrans.pushExcept, PredTrans.pushArg, PredTrans.apply, ExceptT.run,
      StateT.run, pure, PredTrans.pure]

@[spec]
theorem order_spec (st₀ : Order × List OrderEvent) :
    ⦃fun st => ⌜st = st₀⌝⦄ order ⦃⇓ o st => ⌜st = st₀ ∧ o = st₀.1⌝⦄ := by
  mvcgen [order]
  simp_all

@[spec]
theorem update_spec (f : Order → Order) (st₀ : Order × List OrderEvent) :
    ⦃fun st => ⌜st = st₀⌝⦄ update f ⦃⇓ _ st => ⌜st.1 = f st₀.1⌝⦄ := by
  mvcgen [update]
  subst_vars
  rfl

@[spec]
theorem raise_spec (e : OrderEvent) (st₀ : Order × List OrderEvent) :
    ⦃fun st => ⌜st = st₀⌝⦄ raise e ⦃⇓ _ st => ⌜st.1 = st₀.1⌝⦄ := by
  mvcgen [raise]
  subst_vars
  rfl

@[spec]
theorem raiseChecked_spec (v : Validation OrderEvent) (st₀ : Order × List OrderEvent) :
    ⦃fun st => ⌜st = st₀⌝⦄ raiseChecked v
    ⦃post⟨fun _ st => ⌜st.1 = st₀.1⌝, fun _ _ => ⌜True⌝⟩⦄ := by
  cases v <;> mvcgen [raiseChecked]
  simp_all

end OrderAction

namespace Order

open OrderAction

/-- The order after a cancellation into `target`: a refundable payment is refunded. -/
def cancelledInto (o : Order) (target : OrderStatus) : Order :=
  { o with
    status := target
    paymentStatus := if o.paymentStatus.isRefundable then .refunded else o.paymentStatus }

/-- The order after staff move it one step to a status that is no cancellation: delivery
completes a pending payment. -/
def steppedTo (o : Order) (target : OrderStatus) : Order :=
  { o with
    status := target
    paymentStatus :=
      if target == .delivered && o.paymentStatus == .pending then .completed else o.paymentStatus }

@[spec]
theorem assertStep_spec (target : OrderStatus) (st₀ : Order × List OrderEvent) :
    ⦃fun st => ⌜st = st₀⌝⦄ assertStep target
    ⦃post⟨fun _ st => ⌜st = st₀ ∧ st₀.1.status.canStep target⌝, fun _ _ => ⌜True⌝⟩⦄ := by
  mvcgen [assertStep]
  simp_all

@[spec]
theorem assertPaymentStep_spec (target : PaymentStatus) (st₀ : Order × List OrderEvent) :
    ⦃fun st => ⌜st = st₀⌝⦄ assertPaymentStep target
    ⦃post⟨fun _ st => ⌜st = st₀ ∧ st₀.1.paymentStatus.canStep target⌝, fun _ _ => ⌜True⌝⟩⦄ := by
  mvcgen [assertPaymentStep]
  simp_all

@[spec]
theorem changeStatus_spec (target : OrderStatus) (st₀ : Order × List OrderEvent) :
    ⦃fun st => ⌜st = st₀⌝⦄ changeStatus target ⦃⇓ _ st => ⌜st.1 = { st₀.1 with status := target }⌝⦄ := by
  mvcgen [changeStatus]
  simp_all

/-- Recording a checkout session needs an order awaiting payment and changes only its session. -/
@[spec]
theorem recordCheckoutSession_spec (sessionId : Json) (o₀ : Order) :
    ⦃fun st => ⌜st.1 = o₀⌝⦄ recordCheckoutSession sessionId
    ⦃post⟨fun _ st => ⌜o₀.status = .pendingPayment ∧
        ∃ session, st.1 = { o₀ with checkoutSessionId := session }⌝,
      fun _ _ => ⌜True⌝⟩⦄ := by
  unfold recordCheckoutSession
  -- the session field is read by a check on a literal name; keep it opaque to the generator
  generalize Field.optional [("checkout_session_id", sessionId)] "checkout_session_id"
    (Field.text 0 (some 255)) = checked
  mvcgen
  all_goals simp_all

/-- Confirming a payment moves the order to processing and the payment to completed. -/
@[spec]
theorem confirmPayment_spec (amount transactionId : Json) (o₀ : Order) :
    ⦃fun st => ⌜st.1 = o₀⌝⦄ confirmPayment amount transactionId
    ⦃post⟨fun _ st => ⌜o₀.status.canStep .processing ∧ o₀.paymentStatus.canStep .completed ∧
        st.1 = { o₀ with status := .processing, paymentStatus := .completed }⌝,
      fun _ _ => ⌜True⌝⟩⦄ := by
  mvcgen [confirmPayment]
  all_goals simp_all

/-- A late payment completes the payment and leaves the status. -/
@[spec]
theorem recordLatePayment_spec (amount transactionId : Json) (o₀ : Order) :
    ⦃fun st => ⌜st.1 = o₀⌝⦄ recordLatePayment amount transactionId
    ⦃post⟨fun _ st => ⌜o₀.paymentStatus.canStep .completed ∧
        st.1 = { o₀ with paymentStatus := .completed }⌝,
      fun _ _ => ⌜True⌝⟩⦄ := by
  mvcgen [recordLatePayment]
  all_goals simp_all

/-- A payment failure applies to an order awaiting payment and leaves its payment failed. -/
@[spec]
theorem recordPaymentFailure_spec (reason : Json) (o₀ : Order) :
    ⦃fun st => ⌜st.1 = o₀⌝⦄ recordPaymentFailure reason
    ⦃post⟨fun _ st => ⌜o₀.status = .pendingPayment ∧
        (o₀.paymentStatus = .failed ∨ o₀.paymentStatus.canStep .failed) ∧
        st.1 = { o₀ with paymentStatus := .failed }⌝,
      fun _ _ => ⌜True⌝⟩⦄ := by
  -- with the order split into its fields, an already failed payment is seen to stay as it is
  cases o₀
  mvcgen [recordPaymentFailure]
  all_goals simp_all

/-- A cancellation needs a cancellable order; it answers whether the stock is still out. -/
@[spec]
theorem cancel_spec (target : OrderStatus) (o₀ : Order) :
    ⦃fun st => ⌜st.1 = o₀⌝⦄ cancel target
    ⦃post⟨fun giveBack st => ⌜target.isCancelled ∧ o₀.status.isCancellable ∧
        giveBack = !o₀.stockRestored ∧ st.1 = o₀.cancelledInto target⌝,
      fun _ _ => ⌜True⌝⟩⦄ := by
  mvcgen [cancel]
  all_goals simp_all [cancelledInto]

/-- The stock mark is set once. -/
@[spec]
theorem markStockRestored_spec (o₀ : Order) :
    ⦃fun st => ⌜st.1 = o₀⌝⦄ markStockRestored
    ⦃post⟨fun _ st => ⌜o₀.stockRestored = false ∧ st.1 = { o₀ with stockRestored := true }⌝,
      fun _ _ => ⌜True⌝⟩⦄ := by
  mvcgen [markStockRestored]
  all_goals simp_all

/-- A status update by staff does nothing for the current status, cancels for a cancellation,
and otherwise takes one step of the status machine. -/
@[spec]
theorem updateStatus_spec (target : OrderStatus) (o₀ : Order) :
    ⦃fun st => ⌜st.1 = o₀⌝⦄ updateStatus target
    ⦃post⟨fun changed st => ⌜if o₀.status = target then changed = false ∧ st.1 = o₀
        else changed = true ∧
          if target.isCancelled then o₀.status.isCancellable ∧ st.1 = o₀.cancelledInto target
          else o₀.status.canStep target ∧ st.1 = o₀.steppedTo target⌝,
      fun _ _ => ⌜True⌝⟩⦄ := by
  mvcgen [updateStatus]
  all_goals simp_all [steppedTo]

/-- A tracking number needs a processing or shipped order, and ships a processing one. -/
@[spec]
theorem addTrackingNumber_spec (trackingNumber : Json) (o₀ : Order) :
    ⦃fun st => ⌜st.1 = o₀⌝⦄ addTrackingNumber trackingNumber
    ⦃post⟨fun advanced st => ⌜o₀.status.isTrackable ∧ advanced = (o₀.status == .processing) ∧
        ∃ t, st.1 = { o₀ with
          trackingNumber := some t
          status := if o₀.status = .processing then .shipped else o₀.status }⌝,
      fun _ _ => ⌜True⌝⟩⦄ := by
  unfold addTrackingNumber
  -- the tracking text is checked by text functions the generator must not evaluate
  generalize Field.text 0 (some 100) = readTracking
  generalize Text.trimBlank = trim
  mvcgen
  all_goals simp_all +zetaDelta

end Order

end Bazaar
