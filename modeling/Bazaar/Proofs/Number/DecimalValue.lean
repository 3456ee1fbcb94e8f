import Mathlib
import Bazaar.Number.Decimal

/-!
# The values of decimal numbers

A finite decimal `(-1)^negative · coeff · 10^exp` stands for a rational number. The exact sum of the
arithmetic (`Decimal.addFinite`) adds these values, so its comparison (`Decimal.compareValue`) is
the order of the values. Quantizing halves up to an exponent rounds the value, counted in units of
that exponent, to the nearest integer with halves away from zero; that rounding is monotone, so
rounding to cents keeps the order of amounts.
-/

namespace Bazaar

namespace Decimal

/-- The rational value of a finite number; infinities and NaNs count as zero. -/
def value : Decimal → ℚ
  | finite negative coeff exp => (if negative then -(coeff : ℚ) else coeff) * 10 ^ exp
  | _ => 0

theorem value_finite (negative : Bool) (coeff : Nat) (exp : Int) :
    value (finite negative coeff exp) = (if negative then -(coeff : ℚ) else coeff) * 10 ^ exp :=
  rfl

theorem ten_zpow_shift {a e : ℤ} (le : e ≤ a) :
    (10 : ℚ) ^ a = ((Nat.pow 10 (a - e).toNat : ℕ) : ℚ) * 10 ^ e := by
  have shift : ((a - e).toNat : ℤ) = a - e := Int.toNat_of_nonneg (by omega)
  rw [Nat.pow_eq, Nat.cast_pow, Nat.cast_ofNat, ← zpow_natCast, shift,
    ← zpow_add₀ (by norm_num), sub_add_cancel]

/-- A sign and a magnitude read back as the integer they were taken from; the sign of zero does
not matter. -/
theorem signed_natAbs (s : ℤ) (zeroSign : Bool) :
    (if (if s == 0 then zeroSign else decide (s < 0)) then -((s.natAbs : ℕ) : ℚ) else (s.natAbs : ℚ)) =
      s := by
  by_cases zero : s = 0
  · simp [zero]
  · by_cases negative : s < 0
    · simp [zero, negative, Nat.cast_natAbs, abs_of_neg negative]
    · simp [zero, negative, Nat.cast_natAbs, abs_of_nonneg (not_lt.1 negative)]

theorem signed_shift_value (n : Bool) (c : ℕ) {a e : ℤ} (le : e ≤ a) :
    (((if n then -((c * Nat.pow 10 (a - e).toNat : ℕ) : ℤ) else ((c * Nat.pow 10 (a - e).toNat : ℕ) : ℤ)) : ℤ) : ℚ) *
      10 ^ e = value (finite n c a) := by
  rw [value_finite, ten_zpow_shift le]
  cases n <;> simp [mul_assoc]

/-- The exact sum of two finite numbers, before rounding, has the sum of their values. -/
theorem addFinite_value (na : Bool) (ca : Nat) (ea : Int) (nb : Bool) (cb : Nat) (eb : Int) :
    value (finite (addFinite na ca ea nb cb eb).1 (addFinite na ca ea nb cb eb).2.1
      (addFinite na ca ea nb cb eb).2.2) =
      value (finite na ca ea) + value (finite nb cb eb) := by
  simp only [addFinite]
  rw [value_finite, signed_natAbs, Int.cast_add, add_mul, signed_shift_value na ca (min_le_left ea eb),
    signed_shift_value nb cb (min_le_right ea eb)]

theorem value_finite_eq_zero_iff {n : Bool} {c : ℕ} {e : ℤ} :
    value (finite n c e) = 0 ↔ c = 0 := by
  have scale : (10 : ℚ) ^ e ≠ 0 := by positivity
  cases n <;> simp [value_finite, scale]

theorem value_finite_neg_iff {n : Bool} {c : ℕ} {e : ℤ} (nonzero : c ≠ 0) :
    value (finite n c e) < 0 ↔ n = true := by
  have positive : (0 : ℚ) < c * 10 ^ e := by positivity
  cases n <;> simp [value_finite, positive.le, positive]

/-- On finite numbers the comparison of the arithmetic is the order of their values. -/
theorem compareValue_finite (na : Bool) (ca : ℕ) (ea : ℤ) (nb : Bool) (cb : ℕ) (eb : ℤ) :
    compareValue (finite na ca ea) (finite nb cb eb) =
      compare (value (finite na ca ea)) (value (finite nb cb eb)) := by
  have difference := addFinite_value na ca ea (!nb) cb eb
  rcases result : addFinite na ca ea (!nb) cb eb with ⟨n, c, e⟩
  rw [result] at difference
  have negated : value (finite (!nb) cb eb) = -value (finite nb cb eb) := by
    cases nb <;> simp [value_finite]
  rw [negated, ← sub_eq_add_neg] at difference
  simp only [compareValue, result]
  by_cases zero : c = 0
  · have same : value (finite na ca ea) = value (finite nb cb eb) := by
      rw [← sub_eq_zero, ← difference, value_finite_eq_zero_iff.2 zero]
    simp [zero, same]
  · by_cases negative : n = true
    · have below : value (finite na ca ea) < value (finite nb cb eb) := by
        rw [← sub_neg, ← difference, value_finite_neg_iff zero]
        exact negative
      simp [zero, negative, compare_lt_iff_lt.2 below]
    · have above : value (finite nb cb eb) < value (finite na ca ea) := by
        have nonneg := (value_finite_neg_iff (e := e) zero).not.2 negative
        have nonzero := value_finite_eq_zero_iff (n := n) (e := e).not.2 zero
        rw [difference] at nonneg nonzero
        rw [sub_eq_zero] at nonzero
        exact lt_of_le_of_ne (sub_nonneg.1 (not_lt.1 nonneg)) (Ne.symm nonzero)
      simp [zero, negative, compare_gt_iff_gt.2 above]

/-! ## Finite numbers -/

/-- A number with a sign, a coefficient and an exponent: neither an infinity nor a NaN. -/
def IsFinite (d : Decimal) : Prop :=
  ∃ n c e, d = finite n c e

theorem isFinite_zero : zero.IsFinite :=
  ⟨false, 0, 0, rfl⟩

theorem value_zero : zero.value = 0 := by
  simp [zero, value_finite]

theorem compareValue_eq_compare {a b : Decimal} (finiteA : a.IsFinite) (finiteB : b.IsFinite) :
    compareValue a b = compare a.value b.value := by
  obtain ⟨na, ca, ea, rfl⟩ := finiteA
  obtain ⟨nb, cb, eb, rfl⟩ := finiteB
  exact compareValue_finite na ca ea nb cb eb

theorem value_le_of_compareValue_ne_lt {a b : Decimal} (finiteA : a.IsFinite)
    (finiteB : b.IsFinite) (notBelow : compareValue a b ≠ .lt) : b.value ≤ a.value := by
  rw [compareValue_eq_compare finiteA finiteB, Ne, compare_lt_iff_lt] at notBelow
  exact not_lt.1 notBelow

theorem value_lt_of_compareValue_eq_gt {a b : Decimal} (finiteA : a.IsFinite)
    (finiteB : b.IsFinite) (above : compareValue a b = .gt) : b.value < a.value := by
  rw [compareValue_eq_compare finiteA finiteB, compare_gt_iff_gt] at above
  exact above

/-! ## Rounding -/

/-- Rounds to the nearest integer, halves away from zero. -/
def roundHalfAway (q : ℚ) : ℤ :=
  if 0 ≤ q then ⌊q + 1 / 2⌋ else -⌊-q + 1 / 2⌋

theorem roundHalfAway_mono : Monotone roundHalfAway := by
  intro x y le
  unfold roundHalfAway
  split_ifs with xNonneg yNonneg yNonneg
  · exact Int.floor_mono (by linarith)
  · linarith
  · -- a negative number rounds to at most zero, a nonnegative one to at least zero
    have below : 0 ≤ ⌊-x + 1 / 2⌋ := Int.floor_nonneg.2 (by linarith)
    have above : 0 ≤ ⌊y + 1 / 2⌋ := Int.floor_nonneg.2 (by linarith)
    omega
  · exact neg_le_neg (Int.floor_mono (by linarith))

theorem floor_half : ⌊(1 / 2 : ℚ)⌋ = 0 :=
  Int.floor_eq_zero_iff.2 ⟨by norm_num, by norm_num⟩

theorem roundHalfAway_intCast (z : ℤ) : roundHalfAway z = z := by
  unfold roundHalfAway
  split_ifs with nonneg
  · rw [Int.floor_intCast_add, floor_half, add_zero]
  · rw [← Int.cast_neg, Int.floor_intCast_add, floor_half, add_zero, neg_neg]

theorem lt_ten_pow_digitCount (c : ℕ) : c < 10 ^ digitCount c :=
  (Nat.length_toDigits_le_iff (by norm_num) Nat.length_toDigits_pos).1 le_rfl

/-- Dropping `k` digits and rounding halves up is the nearest integer to `c / 10^k`. -/
theorem shiftRound_halfUp (c k : ℕ) : shiftRound .halfUp c k = (2 * c + 10 ^ k) / (2 * 10 ^ k) := by
  have positive : 0 < 10 ^ k := by positivity
  unfold shiftRound
  split_ifs with long
  · -- fewer digits than are dropped: less than a tenth, which rounds to zero
    have small : c < 10 ^ (k - 1) :=
      lt_of_lt_of_le (lt_ten_pow_digitCount c) (Nat.pow_le_pow_right (by norm_num) (by omega))
    have tenfold : 10 ^ k = 10 * 10 ^ (k - 1) := by
      rw [← pow_succ']
      congr 1
      omega
    symm
    exact Nat.div_eq_of_lt (by omega)
  · -- otherwise the remainder decides between the quotient and its successor
    dsimp only
    rw [Nat.pow_eq]
    have whole := Nat.div_add_mod c (10 ^ k)
    have remainder : c % 10 ^ k < 10 ^ k := Nat.mod_lt c positive
    generalize c / 10 ^ k = q at whole ⊢
    generalize c % 10 ^ k = r at whole remainder ⊢
    generalize 10 ^ k = d at whole remainder positive ⊢
    subst whole
    have parts : 2 * (d * q + r) + d = (2 * r + d) + q * (2 * d) := by ring
    rw [parts, Nat.add_mul_div_right _ _ (by omega)]
    split_ifs with above below exact
    · rw [Nat.div_eq_of_lt_le (k := 1) (by omega) (by omega)]
      omega
    · rw [Nat.div_eq_of_lt (by omega)]
      omega
    · simp at exact
      omega
    · rw [Nat.div_eq_of_lt_le (k := 1) (by omega) (by omega)]
      omega

@[simp]
theorem roundHalfAway_zero : roundHalfAway 0 = 0 := by
  simpa using roundHalfAway_intCast 0

theorem roundHalfAway_neg (q : ℚ) : roundHalfAway (-q) = -roundHalfAway q := by
  unfold roundHalfAway
  rcases lt_trichotomy q 0 with negative | zero | positive
  · simp [not_le.2 negative, (neg_pos.2 negative).le]
  · rw [zero, neg_zero]
    simp only [le_refl, if_true, zero_add, floor_half, neg_zero]
  · simp [not_le.2 (neg_neg_of_pos positive), positive.le]

theorem shiftRound_halfUp_eq_round (c k : ℕ) :
    (shiftRound .halfUp c k : ℤ) = roundHalfAway ((c : ℚ) / 10 ^ k) := by
  have nonneg : (0 : ℚ) ≤ c / 10 ^ k := by positivity
  have halves : (c : ℚ) / 10 ^ k + 1 / 2 = ((2 * c + 10 ^ k : ℕ) : ℚ) / ((2 * 10 ^ k : ℕ) : ℚ) := by
    push_cast
    field_simp
  rw [roundHalfAway, if_pos nonneg, shiftRound_halfUp, halves, Rat.floor_natCast_div_natCast]
  norm_cast

/-- Quantizing halves up keeps the wanted exponent and rounds the value, counted in units of that
exponent, to the nearest integer with halves away from zero. -/
theorem quantize_halfUp_value {ctx : Context} {n : Bool} {c : ℕ} {e exp : ℤ} {q : Decimal}
    (rounded : quantize ctx .halfUp (finite n c e) exp = some q) :
    (∃ negative coeff, q = finite negative coeff exp) ∧
      value q = roundHalfAway (value (finite n c e) / 10 ^ exp) * 10 ^ exp := by
  unfold quantize at rounded
  dsimp only at rounded
  split_ifs at rounded with kept zero long long
  · -- a zero keeps its sign and takes the exponent
    cases rounded
    have noCoeff : c = 0 := by simpa using zero
    subst noCoeff
    exact ⟨⟨n, 0, rfl⟩, by simp [value_finite]⟩
  · -- a coarser exponent is made finer exactly, by trailing zeros
    cases rounded
    refine ⟨⟨n, _, rfl⟩, ?_⟩
    rw [value_finite, value_finite, ten_zpow_shift kept]
    generalize Nat.pow 10 (e - exp).toNat = p
    have scale : (10 : ℚ) ^ exp ≠ 0 := by positivity
    have whole : (if n then -(c : ℚ) else c) * (p * 10 ^ exp) / 10 ^ exp =
        ((if n then -((c * p : ℕ) : ℤ) else ((c * p : ℕ) : ℤ) : ℤ) : ℚ) := by
      rw [← mul_assoc, mul_div_cancel_right₀ _ scale]
      cases n <;> simp only [Bool.false_eq_true, ↓reduceIte] <;> push_cast <;> ring
    rw [whole, roundHalfAway_intCast]
    cases n <;> simp only [Bool.false_eq_true, ↓reduceIte] <;> push_cast <;> ring
  · -- a finer exponent is rounded, in units of the wanted one
    cases rounded
    refine ⟨⟨n, _, rfl⟩, ?_⟩
    have scale := ten_zpow_shift (le_of_lt (not_le.1 kept))
    rw [Nat.pow_eq, Nat.cast_pow, Nat.cast_ofNat] at scale
    have inUnits : value (finite n c e) / 10 ^ exp =
        if n then -((c : ℚ) / 10 ^ (exp - e).toNat) else (c : ℚ) / 10 ^ (exp - e).toNat := by
      have unit : (10 : ℚ) ^ e ≠ 0 := by positivity
      rw [value_finite, scale, mul_comm ((10 : ℚ) ^ (exp - e).toNat), ← div_div,
        mul_div_cancel_right₀ _ unit]
      cases n <;> simp only [Bool.false_eq_true, ↓reduceIte, neg_div]
    rw [inUnits, value_finite]
    cases n
    · simp [← shiftRound_halfUp_eq_round]
    · simp [roundHalfAway_neg, ← shiftRound_halfUp_eq_round]

/-- Rounding halves up to a fixed exponent keeps the order of values. -/
theorem quantize_halfUp_mono {ctx : Context} {exp : ℤ} {x y qx qy : Decimal}
    (finiteX : x.IsFinite) (finiteY : y.IsFinite) (le : x.value ≤ y.value)
    (roundedX : quantize ctx .halfUp x exp = some qx)
    (roundedY : quantize ctx .halfUp y exp = some qy) :
    qx.value ≤ qy.value := by
  obtain ⟨nx, cx, ex, rfl⟩ := finiteX
  obtain ⟨ny, cy, ey, rfl⟩ := finiteY
  rw [(quantize_halfUp_value roundedX).2, (quantize_halfUp_value roundedY).2]
  have scale : (0 : ℚ) < 10 ^ exp := by positivity
  apply mul_le_mul_of_nonneg_right _ scale.le
  exact_mod_cast roundHalfAway_mono (div_le_div_of_nonneg_right le scale.le)

/-- Only a finite number or a quiet NaN can be quantized. -/
theorem isFinite_of_quantize {ctx : Context} {mode : Rounding} {d q : Decimal} {exp : ℤ}
    (rounded : quantize ctx mode d exp = some q) (number : d.isNan = false) : d.IsFinite := by
  cases d with
  | finite n c e => exact ⟨n, c, e, rfl⟩
  | infinity n => simp [quantize] at rounded
  | nan n signaling payload => simp [isNan] at number

end Decimal

end Bazaar
