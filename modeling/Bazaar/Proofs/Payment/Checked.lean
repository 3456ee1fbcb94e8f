import Mathlib
import Bazaar.Proofs.Order.Placing
import Bazaar.Proofs.Market.Payments

/-!
# What checked payment records carry

A payment record is built by checking its fields. A record that passes carries the order, the
outcome and the transaction it was given. The command a webhook becomes is checked the same way,
and its checks refuse an empty session, payment intent or charge, so every record a webhook adds
names a transaction. For such a transaction, `Store.recorded` tells exactly whether the log holds a
record of it with a given outcome.
-/

namespace Bazaar

namespace Field

/-- A text that passes its check is the text given, at least as long as the check asks. -/
theorem text_ok {shortest : Nat} {longest : Option Nat} {v : Json} {a : String}
    (read : text shortest longest v = .ok a) : v = .str a ∧ shortest ≤ a.length := by
  cases v with
  | str s =>
    by_cases short : s.length < shortest
    · simp [text, short] at read
    · -- past the shortest length, only an upper bound may still refuse the text
      have kept : s = a := by
        cases longest with
        | none => simpa [text, short] using read
        | some n =>
          by_cases long : s.length > n
          · simp [text, short, long] at read
          · simpa [text, short, long] using read
      subst kept
      exact ⟨rfl, by omega⟩
  | _ => simp [text] at read

/-- A required field that passes was given, and its value passes the field's check. -/
theorem required_ok {α : Type} {given : Given} {name : String} {read : Json → Except String α}
    {a : α} (checked : required given name read = .ok a) :
    ∃ v, lookup given name = some v ∧ read v = .ok a := by
  unfold required at checked
  split at checked
  · cases checked
  · rename_i v found
    split at checked
    · rename_i readOk
      cases checked
      exact ⟨v, found, readOk⟩
    · cases checked

/-- An optional field that passes with a value was given that value, checked. -/
theorem optional_ok {α : Type} {given : Given} {name : String} {read : Json → Except String α}
    {a : α} (checked : optional given name read = .ok (some a)) :
    ∃ v, lookup given name = some v ∧ read v = .ok a := by
  unfold optional at checked
  split at checked
  · cases checked
  · cases checked
  · rename_i v _ found
    split at checked
    · rename_i readOk
      cases checked
      exact ⟨v, found, readOk⟩
    · cases checked

/-- A required text field with a positive shortest length is not empty when it passes. -/
theorem required_text_ne_empty {given : Given} {name : String} {shortest : Nat}
    {longest : Option Nat} {a : String} (positive : 0 < shortest)
    (checked : required given name (text shortest longest) = .ok a) : a ≠ "" := by
  obtain ⟨v, -, read⟩ := required_ok checked
  have longEnough := (text_ok read).2
  rintro rfl
  simp only [String.length_empty] at longEnough
  omega

end Field

namespace Payment

/-- A payment record that passes its checks is for the order, with the outcome and the
transaction it was given. -/
theorem record_ok {orderId customerId : String} {amount : Float} {currency : Json}
    {outcome : PaymentOutcome} {txn : String} {reason response : Json} {p : Payment}
    (recorded : record orderId customerId amount currency outcome (.str txn) reason response =
      .ok p) :
    p.orderId = orderId ∧ p.outcome = outcome ∧ p.transactionId = some txn := by
  unfold record at recorded
  rw [Validation.toExcept_eq_ok] at recorded
  refine Validation.Gives.ok (P := fun p : Payment =>
    p.orderId = orderId ∧ p.outcome = outcome ∧ p.transactionId = some txn) ?_ recorded
  -- one step per checked field; only the transaction's matters
  iterate 4 apply Validation.Gives.seq
  apply Validation.Gives.map
  intro _ _ _ _ t transactionChecked _ _ _ _
  refine ⟨rfl, rfl, ?_⟩
  cases t with
  | none =>
    by_cases long : 255 < txn.length <;>
      simp [Field.optional, Field.lookup, Field.text, long, Validation.reject] at transactionChecked
  | some t =>
    obtain ⟨v, found, read⟩ := Field.optional_ok transactionChecked
    simp [Field.lookup] at found
    rw [← found] at read
    obtain ⟨same, -⟩ := Field.text_ok read
    cases same
    rfl

end Payment

namespace PaymentOutcome

theorem name_eq_name {a b : PaymentOutcome} : a.name = b.name ↔ a = b := by
  cases a <;> cases b <;> simp [name]

end PaymentOutcome

namespace Market

/-- A fallback that is not empty makes a text that is not empty. -/
theorem orElse_ne_empty {given : Option String} {fallback : String} (named : fallback ≠ "") :
    orElse given fallback ≠ "" := by
  cases given with
  | none => exact named
  | some s =>
    by_cases empty : s.isEmpty = true
    · simpa [orElse, empty] using named
    · simpa [orElse, empty] using mt String.isEmpty_iff.2 empty

/-- A completed checkout that passes its checks names its transaction: the payment intent, or
else the session, which it cannot lack. -/
theorem ConfirmCheckout.transaction_named {orderId : String} {e : Webhook.CheckoutCompleted}
    {c : ConfirmCheckout} (built : ConfirmCheckout.ofEvent orderId e = .ok c) :
    orElse c.paymentIntentId c.sessionId ≠ "" := by
  unfold ConfirmCheckout.ofEvent at built
  rw [Validation.toExcept_eq_ok] at built
  refine orElse_ne_empty (Validation.Gives.ok (P := fun c : ConfirmCheckout => c.sessionId ≠ "")
    ?_ built)
  iterate 2 apply Validation.Gives.seq
  apply Validation.Gives.map
  intro sessionId sessionChecked _ _ _ _
  exact Field.required_text_ne_empty (by decide) sessionChecked

/-- A failed payment that passes its checks names its payment intent. -/
theorem RecordFailedPayment.intent_named {orderId : String} {e : Webhook.PaymentFailed}
    {c : RecordFailedPayment} (built : RecordFailedPayment.ofEvent orderId e = .ok c) :
    c.paymentIntentId ≠ "" := by
  unfold RecordFailedPayment.ofEvent at built
  rw [Validation.toExcept_eq_ok] at built
  refine Validation.Gives.ok (P := fun c : RecordFailedPayment => c.paymentIntentId ≠ "") ?_ built
  iterate 2 apply Validation.Gives.seq
  apply Validation.Gives.map
  intro intent intentChecked _ _ _ _
  exact Field.required_text_ne_empty (by decide) intentChecked

/-- A refunded charge that passes its checks names its charge. -/
theorem RecordChargeRefund.charge_named {orderId : String} {e : Webhook.ChargeRefunded}
    {c : RecordChargeRefund} (built : RecordChargeRefund.ofEvent orderId e = .ok c) :
    c.chargeId ≠ "" := by
  unfold RecordChargeRefund.ofEvent at built
  rw [Validation.toExcept_eq_ok] at built
  refine Validation.Gives.ok (P := fun c : RecordChargeRefund => c.chargeId ≠ "") ?_ built
  apply Validation.Gives.seq
  apply Validation.Gives.map
  intro charge chargeChecked _ _
  exact Field.required_text_ne_empty (by decide) chargeChecked

end Market

namespace Store

/-- For a named transaction, the log holds no record of it with an outcome exactly when the
lookup says so. -/
theorem recorded_eq_false {s : Store} {txn : String} {outcome : PaymentOutcome}
    (named : txn ≠ "") :
    s.recorded txn outcome = false ↔
      ∀ p ∈ s.payments, ¬(p.transactionId = some txn ∧ p.outcome = outcome) := by
  simp [recorded, named, PaymentOutcome.name_eq_name]

/-- A record appended for a named transaction is found by the lookup, under its outcome. -/
theorem recorded_of_append {s s' : Store} {p : Payment} {orderId txn : String}
    {outcome : PaymentOutcome} (payments_eq : s'.payments = s.payments ++ [p]) (named : txn ≠ "")
    (row : p.orderId = orderId ∧ p.outcome = outcome ∧ p.transactionId = some txn) :
    s'.recorded txn outcome = true := by
  obtain ⟨-, rfl, txnOf⟩ := row
  simp [recorded, named, payments_eq, txnOf]

end Store

end Bazaar
