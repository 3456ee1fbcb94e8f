import Mathlib
import Bazaar.Proofs.Coupon.Evaluation

/-!
# Minor units

The gateway counts amounts in minor units. For a currency with cents an amount is multiplied by a
hundred in the standard context, which keeps twenty-eight significant digits, and the product is
rounded half up to a whole number. When the amount itself has at most twenty-eight digits the
product is exact, so the minor units are the amount's value in cents rounded halves away from
zero: read back as major units they are the amount rounded to cents
(`Money.minor_units_round_trip`). An amount with more digits is rounded twice, to twenty-eight
digits and then to a whole unit, and may land a cent away from its rounding to cents
(`Money.scaled_amount_drifts_a_cent`). For a currency without a fractional unit the minor units are
the amount rounded to a whole unit.
-/

namespace Bazaar

namespace Decimal

/-- The significant digits a number carries: those of its coefficient; an infinity or a NaN
carries none. -/
def digits : Decimal → ℕ
  | finite _ c _ => digitCount c
  | _ => 0

theorem digitCount_pos (c : ℕ) : 0 < digitCount c :=
  Nat.length_toDigits_pos

theorem digitCount_le_iff {c k : ℕ} (positive : 0 < k) : digitCount c ≤ k ↔ c < 10 ^ k :=
  Nat.length_toDigits_le_iff (by norm_num) positive

theorem digitCount_mul_pow_le (c k : ℕ) : digitCount (c * 10 ^ k) ≤ digitCount c + k := by
  have least := digitCount_pos c
  rw [digitCount_le_iff (by omega), pow_add]
  exact Nat.mul_lt_mul_of_pos_right (lt_ten_pow_digitCount c) (by positivity)

/-- Dropping digits that are all zeros is exact, whatever the rounding. -/
theorem shiftRound_mul_pow (mode : Rounding) (m k : ℕ) : shiftRound mode (m * 10 ^ k) k = m := by
  have positive : 0 < 10 ^ k := by positivity
  unfold shiftRound
  split_ifs with long
  · -- only zero has fewer digits than are dropped
    have least := digitCount_pos (m * 10 ^ k)
    have short : m * 10 ^ k < 10 ^ (k - 1) := (digitCount_le_iff (by omega)).1 (by omega)
    have tenfold : 10 ^ (k - 1) ≤ 10 ^ k := Nat.pow_le_pow_right (by norm_num) (by omega)
    rcases Nat.eq_zero_or_pos m with zero | nonzero
    · exact zero.symm
    · have := Nat.le_mul_of_pos_left (10 ^ k) nonzero
      omega
  · simp [Nat.pow_eq, Nat.mul_div_cancel _ positive, positive]

theorem value_mul_pow (s : Bool) (m j : ℕ) (e : ℤ) :
    value (finite s (m * 10 ^ j) e) = value (finite s m (e + j)) := by
  rw [value_finite, value_finite, zpow_add₀ (by norm_num), zpow_natCast]
  cases s <;> simp only [Bool.false_eq_true, ↓reduceIte, Nat.cast_mul, Nat.cast_pow,
    Nat.cast_ofNat] <;> ring

/-- Fitting a coefficient to the context's precision keeps its value when it is at most that
many digits followed by zeros: only zeros are dropped. -/
theorem fitPrecision_mul_pow {ctx : Context} (s : Bool) {c : ℕ} (k : ℕ) (e : ℤ)
    (fits : digitCount c ≤ ctx.precision) :
    ∃ c' e', fitPrecision ctx s (c * 10 ^ k) e = finite s c' e' ∧
      value (finite s c' e') = value (finite s (c * 10 ^ k) e) := by
  have within := digitCount_mul_pow_le c k
  have least := digitCount_pos c
  unfold fitPrecision
  dsimp only
  generalize dropped : digitCount (c * 10 ^ k) - ctx.precision = drop
  have split : c * 10 ^ k = c * 10 ^ (k - drop) * 10 ^ drop := by
    rw [mul_assoc, ← pow_add, Nat.sub_add_cancel (by omega)]
  split_ifs with short carry
  · exact ⟨_, _, rfl, rfl⟩
  · -- what is left after the zeros are dropped has exactly the precision's digits, no carry
    rw [split, shiftRound_mul_pow] at carry
    have total : digitCount (c * 10 ^ k) = ctx.precision + drop := by omega
    have bound := lt_ten_pow_digitCount (c * 10 ^ k)
    rw [total, pow_add, split] at bound
    have below := Nat.lt_of_mul_lt_mul_right bound
    exact absurd ((digitCount_le_iff (by omega)).2 below) (by omega)
  · refine ⟨_, _, rfl, ?_⟩
    rw [split, shiftRound_mul_pow, value_mul_pow s (c * 10 ^ (k - drop)) drop]

theorem mul_hundred (ctx : Context) (s : Bool) (c : ℕ) (e : ℤ) :
    mul ctx (finite s c e) (ofInt 100) = some (fitPrecision ctx s (c * 10 ^ 2) e) := by
  simp [mul, ofInt, propagateNan]

/-- A number of at most the context's precision in digits is multiplied by a hundred exactly. -/
theorem mul_hundred_exact {ctx : Context} {s : Bool} {c : ℕ} {e : ℤ}
    (fits : digitCount c ≤ ctx.precision) :
    ∃ c' e', mul ctx (finite s c e) (ofInt 100) = some (finite s c' e') ∧
      value (finite s c' e') = 100 * value (finite s c e) := by
  obtain ⟨c', e', fitted, same⟩ := fitPrecision_mul_pow s 2 e fits
  refine ⟨c', e', by rw [mul_hundred, fitted], ?_⟩
  rw [same, value_finite, value_finite]
  cases s <;> simp only [Bool.false_eq_true, ↓reduceIte, Nat.cast_mul, Nat.cast_pow,
    Nat.cast_ofNat] <;> ring

/-- A quantized number is zero or keeps at most the context's precision in digits. -/
theorem quantize_digits {ctx : Context} {mode : Rounding} {d : Decimal} {exp e : ℤ} {s : Bool}
    {c : ℕ} (rounded : quantize ctx mode d exp = some (finite s c e)) :
    c = 0 ∨ digitCount c ≤ ctx.precision := by
  cases d with
  | finite n c₀ e₀ =>
    unfold quantize at rounded
    dsimp only at rounded
    split_ifs at rounded with kept zero long long
    · cases rounded
      exact .inl rfl
    · cases rounded
      have := digitCount_mul_pow_le c₀ (e₀ - exp).toNat
      rw [← Nat.pow_eq] at this
      exact .inr (by omega)
    · cases rounded
      exact .inr (not_lt.1 long)
  | infinity n => simp [quantize] at rounded
  | nan n signaling payload => cases signaling <;> simp [quantize] at rounded

/-- A finite number worth `n` units of `10^e` has the magnitude of `n` as coefficient, and its
sign unless `n` is zero. -/
theorem finite_eq_of_value {s : Bool} {c : ℕ} {e n : ℤ}
    (same : (finite s c e).value = n * 10 ^ e) :
    c = n.natAbs ∧ (n ≠ 0 → s = decide (n < 0)) := by
  have scale : (10 : ℚ) ^ e ≠ 0 := by positivity
  rw [value_finite] at same
  have signed := mul_right_cancel₀ scale same
  cases s with
  | false =>
    have positive : (c : ℤ) = n := by exact_mod_cast signed
    subst positive
    simp
  | true =>
    have negative : -(c : ℤ) = n := by exact_mod_cast signed
    subst negative
    simp
    omega

end Decimal

namespace Money

open Decimal

theorem decimalToInt_whole {s : Bool} {c : ℕ} {n : ℤ}
    (truncated : decimalToInt (finite s c 0) = .ok n) :
    (n : ℚ) = (finite s c 0).value ∧ n.natAbs = c := by
  simp only [decimalToInt, truncate?, Except.ok.injEq] at truncated
  subst truncated
  cases s <;> simp [value_finite]

/-- Only a finite number rounds to a whole number that has an integer part: an infinity cannot be
quantized, and a quiet NaN has no integer part. -/
theorem isFinite_of_whole {d q : Decimal} {n : ℤ} (rounded : quantizeHalfUp d 0 = .ok q)
    (truncated : decimalToInt q = .ok n) : d.IsFinite := by
  rw [Coupon.quantizeHalfUp_eq_ok] at rounded
  cases d with
  | finite s c e => exact ⟨s, c, e, rfl⟩
  | infinity s => simp [quantize] at rounded
  | nan s signaling payload =>
    cases signaling
    · simp only [quantize, Option.some.injEq] at rounded
      subst rounded
      simp [decimalToInt, truncate?] at truncated
    · simp [quantize] at rounded

/-- Rounding to a whole unit and taking the integer part gives the value rounded halves away from
zero, which has at most twenty-eight digits. -/
theorem whole_units {d q : Decimal} {n : ℤ} (rounded : quantizeHalfUp d 0 = .ok q)
    (truncated : decimalToInt q = .ok n) :
    n = roundHalfAway d.value ∧ (n.natAbs = 0 ∨ digitCount n.natAbs ≤ 28) := by
  obtain ⟨s, c, e, rfl⟩ := isFinite_of_whole rounded truncated
  rw [Coupon.quantizeHalfUp_eq_ok] at rounded
  obtain ⟨⟨negative, coeff, rfl⟩, valued⟩ := quantize_halfUp_value rounded
  obtain ⟨cast, magnitude⟩ := decimalToInt_whole truncated
  refine ⟨?_, magnitude ▸ quantize_digits rounded⟩
  have same : (n : ℚ) = roundHalfAway (finite s c e).value := by
    rw [cast, valued]
    simp
  exact_mod_cast same

theorem toMinorUnits_whole {d : Decimal} {currency : String} {n : ℤ}
    (whole : isZeroDecimal currency = true) (converted : toMinorUnits d currency = .ok n) :
    n = roundHalfAway d.value := by
  simp only [toMinorUnits, whole, if_true] at converted
  obtain ⟨q, rounded, truncated⟩ := Except.bind_ok converted
  exact (whole_units rounded truncated).1

/-- For a currency with cents, an amount of at most twenty-eight digits is converted to its value
in cents rounded halves away from zero. -/
theorem toMinorUnits_cents {d : Decimal} {currency : String} {n : ℤ}
    (cents : isZeroDecimal currency = false) (fits : d.digits ≤ 28)
    (converted : toMinorUnits d currency = .ok n) :
    d.IsFinite ∧ n = roundHalfAway (100 * d.value) ∧
      (n.natAbs = 0 ∨ digitCount n.natAbs ≤ 28) := by
  simp only [toMinorUnits, cents, Bool.false_eq_true, if_false] at converted
  obtain ⟨scaled, multiplied, rest⟩ := Except.bind_ok converted
  obtain ⟨q, rounded, truncated⟩ := Except.bind_ok rest
  have finiteScaled := isFinite_of_whole rounded truncated
  obtain ⟨units, short⟩ := whole_units rounded truncated
  cases d with
  | finite s c e =>
    obtain ⟨c', e', exact, valued⟩ := @mul_hundred_exact .standard s c e fits
    simp only [exact, arith, Except.ok.injEq] at multiplied
    subst multiplied
    exact ⟨⟨s, c, e, rfl⟩, by rw [units, valued], short⟩
  -- a hundred times an infinity or a quiet NaN is no finite number, so it was not rounded
  | infinity s =>
    simp [mul, propagateNan, ofInt, arith] at multiplied
    subst multiplied
    obtain ⟨_, _, _, impossible⟩ := finiteScaled
    cases impossible
  | nan s signaling payload =>
    cases signaling <;> simp [mul, propagateNan, ofInt, arith] at multiplied
    subst multiplied
    obtain ⟨_, _, _, impossible⟩ := finiteScaled
    cases impossible

theorem fromMinorUnits_eq {n : ℤ} (fits : n.natAbs = 0 ∨ digitCount n.natAbs ≤ 28) :
    fromMinorUnits n = .ok (Float.ofDecimal (decide (n < 0)) n.natAbs (-2)) := by
  by_cases zero : n = 0
  · subst zero
    simp [fromMinorUnits, quantize, decimalToFloat, toFloat?]
  · have bound := fits.resolve_left (Int.natAbs_ne_zero.2 zero)
    simp [fromMinorUnits, quantize, zero, decimalToFloat, toFloat?, Context.standard,
      not_lt.2 bound]

/-- Rounding a finite amount to cents gives the double of a number of cents, worth the amount's
value in cents rounded halves away from zero. -/
theorem round_cents {a : Json} {d : Decimal} {x : Float} (read : Json.asDecimal a = .ok d)
    (finite : d.IsFinite) (rounded : round a = .ok x) :
    ∃ negative coeff, quantizeHalfUp d (-2) = .ok (.finite negative coeff (-2)) ∧
      x = Float.ofDecimal negative coeff (-2) ∧
      (Decimal.finite negative coeff (-2)).value = roundHalfAway (100 * d.value) / 100 := by
  have atCents : roundDecimal d = .ok x := by
    simpa [round, read, bind, Except.bind] using rounded
  obtain ⟨cents, quantized, float⟩ := Coupon.roundDecimal_eq_ok.1 atCents
  obtain ⟨s, c, e, rfl⟩ := finite
  obtain ⟨⟨negative, coeff, rfl⟩, valued⟩ :=
    quantize_halfUp_value (Coupon.quantizeHalfUp_eq_ok.1 quantized)
  simp only [decimalToFloat, toFloat?, Except.ok.injEq] at float
  refine ⟨negative, coeff, quantized, float.symm, ?_⟩
  rw [valued]
  norm_num [div_eq_mul_inv, mul_comm]

/-- Converting an amount to minor units and back. For a currency with cents, an amount of at most
twenty-eight significant digits goes to its value in cents rounded halves away from zero; that
many hundredths are the amount rounded to cents, and read back as a double they are the double the
amount rounds to, except that zero cents read back as a positive zero while rounding keeps the
amount's sign. For a currency without a fractional unit, the amount goes to its value rounded to a
whole unit. -/
theorem minor_units_round_trip (a : Json) (currency : String) (d : Decimal) (n : ℤ)
    (read : Json.asDecimal a = .ok d) (converted : toMinorUnits d currency = .ok n) :
    (isZeroDecimal currency = false → d.digits ≤ 28 → ∀ x, round a = .ok x →
      n = roundHalfAway (100 * d.value) ∧
      (∃ cents, quantizeHalfUp d (-2) = .ok cents ∧ cents.value = n / 100) ∧
      (n ≠ 0 → fromMinorUnits n = .ok x) ∧
      (n = 0 → fromMinorUnits n = .ok (Float.ofDecimal false 0 (-2)) ∧
        ∃ negative, x = Float.ofDecimal negative 0 (-2))) ∧
    (isZeroDecimal currency = true → n = roundHalfAway d.value) := by
  refine ⟨fun cents fits x rounded => ?_, fun whole => toMinorUnits_whole whole converted⟩
  obtain ⟨finite, units, short⟩ := toMinorUnits_cents cents fits converted
  obtain ⟨negative, coeff, quantized, float, valued⟩ := round_cents read finite rounded
  rw [← units] at valued
  -- the amount rounded to cents is `n` hundredths, so its coefficient is the magnitude of `n`
  have inCents : (Decimal.finite negative coeff (-2)).value = n * 10 ^ (-2 : ℤ) := by
    rw [valued]
    norm_num [div_eq_mul_inv]
  obtain ⟨magnitude, sign⟩ := finite_eq_of_value inCents
  refine ⟨units, ⟨_, quantized, valued⟩, fun nonzero => ?_, fun zero => ?_⟩
  · rw [fromMinorUnits_eq short, float, magnitude, sign nonzero]
  · subst zero
    refine ⟨by simpa using fromMinorUnits_eq short, negative, ?_⟩
    rw [float, magnitude, Int.natAbs_zero]

theorem dollars_round_trip :
    Json.asDecimal (.str "12.345") = .ok (.finite false 12345 (-3)) ∧
    toMinorUnits (.finite false 12345 (-3)) "usd" = .ok 1235 ∧
    fromMinorUnits 1235 = round (.str "12.345") := by
  have read : Json.asDecimal (.str "12.345") = .ok (.finite false 12345 (-3)) := rfl
  have converted : toMinorUnits (.finite false 12345 (-3)) "usd" = .ok 1235 := rfl
  have rounded : round (.str "12.345") = .ok (Float.ofDecimal false 1235 (-2)) := rfl
  have trip := (minor_units_round_trip _ "usd" _ 1235 read converted).1 rfl (by decide) _ rounded
  exact ⟨read, converted, rounded ▸ trip.2.2.1 (by decide)⟩

/-- The bound on digits is needed. Half a cent less one unit in the twenty-ninth digit, multiplied
by a hundred, is rounded to exactly half a unit in twenty-eight digits, and then up to one cent;
the amount itself rounds to zero cents. -/
theorem scaled_amount_drifts_a_cent :
    Json.asDecimal (.str "0.0049999999999999999999999999999") =
      .ok (.finite false 49999999999999999999999999999 (-31)) ∧
    (Decimal.finite false 49999999999999999999999999999 (-31)).digits = 29 ∧
    toMinorUnits (.finite false 49999999999999999999999999999 (-31)) "usd" = .ok 1 ∧
    quantizeHalfUp (.finite false 49999999999999999999999999999 (-31)) (-2) =
      .ok (.finite false 0 (-2)) :=
  ⟨rfl, by decide, rfl, rfl⟩

end Money

end Bazaar
