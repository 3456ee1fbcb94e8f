import Mathlib
import Bazaar.Coupon
import Bazaar.Proofs.Number.DecimalValue
import Bazaar.Proofs.Order.Placing

/-!
# Evaluating a coupon

A coupon is evaluated against a cart total by checks made in order, the first failure giving the
reason: the coupon must be active, must not have expired, must not be used up, and the total must
reach the minimum purchase. `Coupon.Verdict` states the answer: the reason of the first failed
check, or a valid verdict whose discount is the percentage of the total or the fixed amount,
bounded by the total and by zero, then rounded half up to cents.

Main statement: `Coupon.evaluation_follows_its_checks`. An evaluation answers exactly the verdict,
and fails only for a coupon that passed its own checks.

The discount is bounded before it is rounded, so it is never below zero but may exceed a total that
is not a whole number of cents: a fixed amount on a total of `0.005` is rounded up to `0.01`. What
holds is that it never exceeds the total rounded to cents.
-/

namespace Bazaar

namespace Coupon


/-! ## The verdict -/

/-- The reason of the first check a coupon fails at `now`, before any cart is looked at: it must be
active, must not have expired (its expiry strictly before `now`), and must not have reached a usage
limit. -/
def refusalAt (c : Coupon) (now : Instant) : Option String :=
  if c.active = false then some ("Coupon " ++ c.code ++ " is not active")
  else if c.expiry.micros < now.micros then some ("Coupon " ++ c.code ++ " has expired")
  else if c.usageLimit.any (· ≤ c.timesUsed) then
    some ("Coupon " ++ c.code ++ " has reached its usage limit")
  else none

/-- The discount before it is bounded: the percentage of the total, or the fixed amount. -/
def discountOn (kind : DiscountKind) (total value : Decimal) : Except Fault Decimal :=
  match kind with
  | .percentage => do
    Money.arith (Decimal.perHundred .standard (← Money.arith (Decimal.mul .standard total value)))
  | .fixedAmount => pure value

/-- `max 0 (min discount total)`, in the order of decimal values. -/
def bounded (total discount : Decimal) : Decimal :=
  let capped := if Decimal.compareValue total discount = .lt then total else discount
  if Decimal.compareValue capped Decimal.zero = .gt then capped else Decimal.zero

/-- What evaluating a coupon that passed its own checks answers for a cart total. Both amounts are
read as decimals, and a total below the minimum is refused, with the minimum shown in cents.
Otherwise the coupon is valid, and its discount is the percentage of the total or the fixed amount,
bounded by the total and by zero, then rounded half up to cents: never below zero and, for a total
of at least zero, never above the total rounded to cents. A NaN makes a comparison fail, so no
amount compared is one. -/
def CartVerdict (c : Coupon) (cartTotal : Json) (ev : Evaluation) : Prop :=
  ∃ total minimum, cartTotal.asDecimal = .ok total ∧ Money.decimalOfFloat c.minimum = .ok minimum ∧
    total.isNan = false ∧ minimum.isNan = false ∧
    if Decimal.compareValue total minimum = .lt then
      ∃ shown, Money.roundDecimal minimum = .ok shown ∧
        ev = .refused ("Minimum purchase amount of " ++ Float.fixedText 2 shown ++
          " is required for coupon " ++ c.code)
    else
      ∃ value discount cents, Money.decimalOfFloat c.value = .ok value ∧
        discountOn c.kind total value = .ok discount ∧ discount.isNan = false ∧
        Money.quantizeHalfUp (bounded total discount) (-2) = .ok cents ∧
        Money.decimalToFloat cents = .ok ev.discount ∧ ev.valid = true ∧ ev.reason = none ∧
        0 ≤ cents.value ∧
        (Decimal.compareValue total Decimal.zero ≠ .lt →
          ∀ rounded, Money.quantizeHalfUp total (-2) = .ok rounded → cents.value ≤ rounded.value)

/-- The verdict on a coupon for a cart total at `now`: the first of its own checks that fails, else
the verdict on the cart. -/
def Verdict (c : Coupon) (cartTotal : Json) (now : Instant) (ev : Evaluation) : Prop :=
  match c.refusalAt now with
  | some reason => ev = .refused reason
  | none => CartVerdict c cartTotal ev

/-! ## The coupon's own checks -/

theorem refusalAt_eq_none_iff (c : Coupon) (now : Instant) :
    c.refusalAt now = none ↔
      c.active = true ∧ c.isExpired now = false ∧ c.limitReached = false := by
  unfold refusalAt isExpired Instant.isBefore limitReached
  cases limit : c.usageLimit <;> cases c.active <;> by_cases expired : c.expiry.micros < now.micros <;>
    simp [expired]


theorem evaluate_of_refusal {c : Coupon} {now : Instant} {reason : String} (cartTotal : Json)
    (refused : c.refusalAt now = some reason) : c.evaluate cartTotal now = .ok (.refused reason) := by
  unfold refusalAt at refused
  unfold evaluate isExpired Instant.isBefore limitReached
  cases limit : c.usageLimit <;> cases active : c.active <;>
    by_cases expired : c.expiry.micros < now.micros <;> simp_all [pure, Except.pure]

/-! ## Bounding and rounding the discount -/

theorem compareDecimal_eq_ok {a b : Decimal} {o : Ordering} :
    compareDecimal a b = .ok o ↔ a.isNan = false ∧ b.isNan = false ∧ o = Decimal.compareValue a b := by
  unfold compareDecimal Decimal.compare?
  cases a.isNan <;> cases b.isNan <;> simp [eq_comm]

theorem quantizeHalfUp_eq_ok {d q : Decimal} {exp : ℤ} :
    Money.quantizeHalfUp d exp = .ok q ↔ Decimal.quantize .standard .halfUp d exp = some q := by
  unfold Money.quantizeHalfUp
  cases Decimal.quantize .standard .halfUp d exp <;> simp

/-- What bounding a discount can give: zero, or a positive amount that is the total or a discount
not above it. -/
theorem bounded_cases (total discount : Decimal) :
    bounded total discount = Decimal.zero ∨
      Decimal.compareValue (bounded total discount) Decimal.zero = .gt ∧
        (bounded total discount = total ∨
          bounded total discount = discount ∧ Decimal.compareValue total discount ≠ .lt) := by
  unfold bounded
  dsimp only
  split_ifs with below above above
  · exact .inr ⟨above, .inl rfl⟩
  · exact .inl rfl
  · exact .inr ⟨above, .inr ⟨rfl, below⟩⟩
  · exact .inl rfl

theorem bounded_isNan {total discount : Decimal} (totalNumber : total.isNan = false)
    (discountNumber : discount.isNan = false) : (bounded total discount).isNan = false := by
  rcases bounded_cases total discount with isZero | ⟨-, isTotal | ⟨isDiscount, -⟩⟩
  · rw [isZero]; rfl
  · rw [isTotal]; exact totalNumber
  · rw [isDiscount]; exact discountNumber

/-- A bounded discount is worth at least zero. -/
theorem bounded_value_nonneg {total discount : Decimal}
    (finite : (bounded total discount).IsFinite) : 0 ≤ (bounded total discount).value := by
  rcases bounded_cases total discount with isZero | ⟨above, -⟩
  · rw [isZero, Decimal.value_zero]
  · have positive := Decimal.value_lt_of_compareValue_eq_gt finite Decimal.isFinite_zero above
    rw [Decimal.value_zero] at positive
    exact positive.le

/-- For a total of at least zero, a bounded discount is worth at most the total. -/
theorem bounded_value_le {total discount : Decimal} (totalFinite : total.IsFinite)
    (finite : (bounded total discount).IsFinite)
    (nonneg : Decimal.compareValue total Decimal.zero ≠ .lt) :
    (bounded total discount).value ≤ total.value := by
  rcases bounded_cases total discount with isZero | ⟨-, isTotal | ⟨isDiscount, notBelow⟩⟩
  · rw [isZero, Decimal.value_zero]
    exact Decimal.value_zero ▸
      Decimal.value_le_of_compareValue_ne_lt totalFinite Decimal.isFinite_zero nonneg
  · rw [isTotal]
  · rw [isDiscount]
    exact Decimal.value_le_of_compareValue_ne_lt totalFinite (isDiscount ▸ finite) notBelow

/-- A bounded discount rounded to cents is never below zero, and for a total of at least zero never
above the total rounded to cents. -/
theorem cents_within {total discount cents : Decimal} (totalNumber : total.isNan = false)
    (discountNumber : discount.isNan = false)
    (rounded : Money.quantizeHalfUp (bounded total discount) (-2) = .ok cents) :
    0 ≤ cents.value ∧ (Decimal.compareValue total Decimal.zero ≠ .lt →
      ∀ r, Money.quantizeHalfUp total (-2) = .ok r → cents.value ≤ r.value) := by
  rw [quantizeHalfUp_eq_ok] at rounded
  have finite := Decimal.isFinite_of_quantize rounded (bounded_isNan totalNumber discountNumber)
  have zeroRounded : Decimal.quantize .standard .halfUp Decimal.zero (-2) =
      some (.finite false 0 (-2)) := rfl
  refine ⟨?_, ?_⟩
  · -- rounding keeps the bounded discount at least zero
    have above := Decimal.quantize_halfUp_mono Decimal.isFinite_zero finite
      (Decimal.value_zero ▸ bounded_value_nonneg finite) zeroRounded rounded
    simpa [Decimal.value_finite] using above
  · -- rounding keeps the bounded discount at most the total
    intro nonneg r roundedTotal
    rw [quantizeHalfUp_eq_ok] at roundedTotal
    have totalFinite := Decimal.isFinite_of_quantize roundedTotal totalNumber
    exact Decimal.quantize_halfUp_mono finite totalFinite
      (bounded_value_le totalFinite finite nonneg) rounded roundedTotal

/-! ## The cart -/

/-- The end of an evaluation once the discount is known: it is bounded by the total and by zero,
and rounded to cents. -/
def settle (total discount : Decimal) : Except Fault Evaluation := do
  let capped := if (← compareDecimal total discount) == .lt then total else discount
  let floored := if (← compareDecimal capped Decimal.zero) == .gt then capped else Decimal.zero
  return ⟨true, none, ← Money.roundDecimal floored⟩

/-- Evaluating a coupon that passed its own checks reads the cart total and the minimum, refuses a
total below the minimum, and otherwise settles the discount. -/
theorem evaluate_of_unrefused {c : Coupon} {now : Instant} (cartTotal : Json)
    (unrefused : c.refusalAt now = none) :
    c.evaluate cartTotal now = (do
      let total ← cartTotal.asDecimal
      let minimum ← Money.decimalOfFloat c.minimum
      if (← compareDecimal total minimum) == .lt then
        let shown ← Money.roundDecimal minimum
        return .refused ("Minimum purchase amount of " ++ Float.fixedText 2 shown ++
          " is required for coupon " ++ c.code)
      let value ← Money.decimalOfFloat c.value
      settle total (← discountOn c.kind total value)) := by
  obtain ⟨active, unexpired, unused⟩ := (refusalAt_eq_none_iff c now).1 unrefused
  unfold evaluate
  simp only [active, unexpired, unused, Bool.not_true, Bool.false_eq_true, if_false]
  -- the same reads and comparison; only the discount is taken apart differently
  refine bind_congr fun total => bind_congr fun minimum => bind_congr fun order => ?_
  split_ifs
  · rfl
  · refine bind_congr fun value => ?_
    cases c.kind <;> simp only [discountOn, bind_assoc, pure_bind] <;> rfl


theorem compareDecimal_of_numbers {a b : Decimal} (numberA : a.isNan = false)
    (numberB : b.isNan = false) : compareDecimal a b = .ok (Decimal.compareValue a b) :=
  compareDecimal_eq_ok.2 ⟨numberA, numberB, rfl⟩

theorem roundDecimal_eq_ok {d : Decimal} {x : Float} :
    Money.roundDecimal d = .ok x ↔
      ∃ cents, Money.quantizeHalfUp d (-2) = .ok cents ∧ Money.decimalToFloat cents = .ok x := by
  unfold Money.roundDecimal
  cases Money.quantizeHalfUp d (-2) <;> simp [bind, Except.bind]

theorem settle_eq_ok {total discount : Decimal} {ev : Evaluation} :
    settle total discount = .ok ev ↔ total.isNan = false ∧ discount.isNan = false ∧
      ∃ cents, Money.quantizeHalfUp (bounded total discount) (-2) = .ok cents ∧
        Money.decimalToFloat cents = .ok ev.discount ∧ ev.valid = true ∧ ev.reason = none := by
  constructor
  · intro settled
    unfold settle at settled
    obtain ⟨order, compared, settled⟩ := Except.bind_ok settled
    obtain ⟨totalNumber, discountNumber, rfl⟩ := compareDecimal_eq_ok.1 compared
    obtain ⟨order', compared', settled⟩ := Except.bind_ok settled
    obtain ⟨-, -, rfl⟩ := compareDecimal_eq_ok.1 compared'
    obtain ⟨d, rounded, settled⟩ := Except.bind_ok settled
    cases settled
    obtain ⟨cents, quantized, converted⟩ := roundDecimal_eq_ok.1 rounded
    simp only [beq_iff_eq] at quantized
    exact ⟨totalNumber, discountNumber, cents, quantized, converted, rfl, rfl⟩
  · rintro ⟨totalNumber, discountNumber, cents, quantized, converted, valid, reason⟩
    have cappedNumber :
        (if Decimal.compareValue total discount = .lt then total else discount).isNan = false := by
      split_ifs
      · exact totalNumber
      · exact discountNumber
    unfold settle
    simp only [compareDecimal_of_numbers totalNumber discountNumber, beq_iff_eq, bind, Except.bind]
    rw [compareDecimal_of_numbers cappedNumber rfl]
    have rounded : Money.roundDecimal (bounded total discount) = .ok ev.discount :=
      roundDecimal_eq_ok.2 ⟨cents, quantized, converted⟩
    unfold bounded at rounded
    dsimp only at rounded ⊢
    rw [rounded]
    cases ev
    simp_all [pure, Except.pure]


/-! ## Evaluation -/

theorem evaluate_verdict {c : Coupon} {cartTotal : Json} {now : Instant} {ev : Evaluation}
    (evaluated : c.evaluate cartTotal now = .ok ev) : Verdict c cartTotal now ev := by
  unfold Verdict
  cases refused : c.refusalAt now with
  | some reason =>
    rw [evaluate_of_refusal cartTotal refused] at evaluated
    exact (Except.ok.inj evaluated).symm
  | none =>
    rw [evaluate_of_unrefused cartTotal refused] at evaluated
    obtain ⟨total, totalRead, evaluated⟩ := Except.bind_ok evaluated
    obtain ⟨minimum, minimumRead, evaluated⟩ := Except.bind_ok evaluated
    obtain ⟨order, compared, evaluated⟩ := Except.bind_ok evaluated
    obtain ⟨totalNumber, minimumNumber, rfl⟩ := compareDecimal_eq_ok.1 compared
    refine ⟨total, minimum, totalRead, minimumRead, totalNumber, minimumNumber, ?_⟩
    simp only [beq_iff_eq] at evaluated
    split_ifs at evaluated ⊢ with below
    · obtain ⟨shown, shownRead, evaluated⟩ := Except.bind_ok evaluated
      exact ⟨shown, shownRead, (Except.ok.inj evaluated).symm⟩
    · obtain ⟨value, valueRead, evaluated⟩ := Except.bind_ok evaluated
      obtain ⟨discount, discounted, settled⟩ := Except.bind_ok evaluated
      obtain ⟨-, discountNumber, cents, quantized, converted, valid, reason⟩ := settle_eq_ok.1 settled
      obtain ⟨atLeastZero, atMostTotal⟩ := cents_within totalNumber discountNumber quantized
      exact ⟨value, discount, cents, valueRead, discounted, discountNumber, quantized, converted,
        valid, reason, atLeastZero, atMostTotal⟩

theorem evaluate_of_verdict {c : Coupon} {cartTotal : Json} {now : Instant} {ev : Evaluation}
    (verdict : Verdict c cartTotal now ev) : c.evaluate cartTotal now = .ok ev := by
  unfold Verdict at verdict
  cases refused : c.refusalAt now with
  | some reason =>
    rw [refused] at verdict
    rw [evaluate_of_refusal cartTotal refused, verdict]
  | none =>
    rw [refused] at verdict
    obtain ⟨total, minimum, totalRead, minimumRead, totalNumber, minimumNumber, cart⟩ := verdict
    rw [evaluate_of_unrefused cartTotal refused]
    simp only [totalRead, minimumRead, compareDecimal_of_numbers totalNumber minimumNumber, bind,
      Except.bind, beq_iff_eq]
    split_ifs at cart ⊢ with below
    · obtain ⟨shown, shownRead, rfl⟩ := cart
      simp [shownRead, pure, Except.pure]
    · obtain ⟨value, discount, cents, valueRead, discounted, discountNumber, quantized, converted,
        valid, reason, -, -⟩ := cart
      simp only [valueRead, discounted]
      exact settle_eq_ok.2 ⟨totalNumber, discountNumber, cents, quantized, converted, valid, reason⟩

theorem evaluation_follows_its_checks (c : Coupon) (cartTotal : Json) (now : Instant) :
    (∀ ev, c.evaluate cartTotal now = .ok ev ↔ Verdict c cartTotal now ev) ∧
      ∀ f, c.evaluate cartTotal now = .error f → c.refusalAt now = none := by
  refine ⟨fun ev => ⟨evaluate_verdict, evaluate_of_verdict⟩, fun f failed => ?_⟩
  cases refused : c.refusalAt now with
  | none => rfl
  | some reason =>
    rw [evaluate_of_refusal cartTotal refused] at failed
    cases failed

/-- A coupon that passes its own checks but meets a cart total that is no number. -/
def openCoupon : Coupon :=
  ⟨"c1", "SAVE5", none, .fixedAmount, 5.0, ⟨0⟩, 0.0, true, none, 0⟩

theorem unreadable_total_fails_after_the_checks :
    openCoupon.evaluate (.str "five") ⟨0⟩ = .error .invalidDecimal ∧
      openCoupon.refusalAt ⟨0⟩ = none :=
  ⟨rfl, (evaluation_follows_its_checks openCoupon (.str "five") ⟨0⟩).2 _ rfl⟩

end Coupon

end Bazaar
