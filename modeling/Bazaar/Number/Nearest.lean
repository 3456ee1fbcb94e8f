/-!
# The double nearest to a rational

Reading a decimal text as a double rounds the exact value `num / den` to the nearest double, a tie
going to the even significand. The significand is found on naturals: the binary exponent `x` is
chosen so that `num / (den · 2^x)` lies in `[2^52, 2^53)`, or `x = -1074` below the normal range,
and the quotient is rounded once. Values beyond the largest double become infinite.
-/

namespace Bazaar

namespace Nearest

/-- Rounds `num / den` to a natural, a tie going to the even one. -/
def roundHalfEven (num den : Nat) : Nat :=
  let q := num / den
  let r := num % den
  if 2 * r > den then q + 1
  else if 2 * r < den then q
  else if q % 2 == 0 then q else q + 1

/-- `⌊log₂ (num / den)⌋` for positive `num` and `den`. -/
def floorLog2 (num den : Nat) : Int :=
  let e : Int := (num.log2 : Int) - den.log2
  -- `e` is the answer or one more than it
  let below := if e ≥ 0 then num < den * Nat.pow 2 e.toNat else num * Nat.pow 2 (-e).toNat < den
  if below then e - 1 else e

/-- The quotient `num / (den · 2^x)` rounded half to even. -/
def scaledRound (num den : Nat) (x : Int) : Nat :=
  if x ≥ 0 then roundHalfEven num (den * Nat.pow 2 x.toNat)
  else roundHalfEven (num * Nat.pow 2 (-x).toNat) den

/-- The bits of the positive double nearest to `num / den`, for `num > 0`. -/
def positiveBits (num den : Nat) : Nat :=
  let x := max (floorLog2 num den - 52) (-1074)
  let m := scaledRound num den x
  -- rounding up may carry into the next binade
  let (m, x) := if m == Nat.pow 2 53 then (Nat.pow 2 52, x + 1) else (m, x)
  if x + 52 > 1023 then 0x7FF0000000000000
  else if m < Nat.pow 2 52 then m
  else (x + 1075).toNat * Nat.pow 2 52 + (m - Nat.pow 2 52)

end Nearest

/-- The double nearest to `num / den` with the given sign; zero keeps its sign. -/
def Float.ofRatio (negative : Bool) (num den : Nat) : Float :=
  let bits := if num == 0 || den == 0 then 0 else Nearest.positiveBits num den
  Float.ofBits (UInt64.ofNat (if negative then bits + Nat.pow 2 63 else bits))

/-- The infinite double of the given sign. -/
def Float.infinity (negative : Bool) : Float :=
  Float.ofBits (if negative then 0xFFF0000000000000 else 0x7FF0000000000000)

/-- The double nearest to `c · 10^e`. Exponents far outside the range of doubles go straight to
zero or infinity, so the exact arithmetic stays small. -/
def Float.ofDecimal (negative : Bool) (c : Nat) (e : Int) : Float :=
  let digits := (Nat.toDigits 10 c).length
  if c == 0 || e + digits < -330 then Float.ofRatio negative 0 1
  else if e + digits > 311 then Float.infinity negative
  else if e ≥ 0 then Float.ofRatio negative (c * Nat.pow 10 e.toNat) 1
  else Float.ofRatio negative c (Nat.pow 10 (-e).toNat)

end Bazaar
