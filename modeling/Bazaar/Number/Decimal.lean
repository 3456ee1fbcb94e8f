import Bazaar.Number.Nearest
import Bazaar.Text.Blank
import Bazaar.Text.Digit

/-!
# Decimal numbers

Exact decimal arithmetic of the General Decimal Arithmetic kind: a number is a sign, a natural
coefficient and a power of ten, or an infinity, or a NaN (quiet or signaling, with a diagnostic
payload). Money is rounded through these numbers so that `1.005` rounds to `1.01` as its text says.

The results of arithmetic are rounded to the working precision of `Decimal.Context.standard`,
twenty-eight digits, ties to even. Quantizing to a fixed exponent rounds as asked and is refused
when the result would need more digits than the precision. A refused operation is `none`: it is the
"invalid operation" condition, which this program never lets pass silently.
-/

namespace Bazaar

/-- A decimal number: `(-1)^negative · coeff · 10^exp`, an infinity, or a NaN. -/
inductive Decimal where
  | finite (negative : Bool) (coeff : Nat) (exp : Int)
  | infinity (negative : Bool)
  | nan (negative : Bool) (signaling : Bool) (payload : Nat)
  deriving Inhabited, BEq

namespace Decimal

/-- How a quotient's dropped part rounds: halves away from zero, or halves to the even neighbour. -/
inductive Rounding where
  | halfUp
  | halfEven
  deriving BEq

/-- The arithmetic context: the number of significant digits a result may keep, and how results
with more digits are rounded. -/
structure Context where
  precision : Nat
  rounding : Rounding

/-- Twenty-eight significant digits, ties to even. -/
def Context.standard : Context := ⟨28, .halfEven⟩

/-- The number of decimal digits of `n`, with `0` counted as one digit. -/
def digitCount (n : Nat) : Nat :=
  (Nat.toDigits 10 n).length

/-- Divides `c` by `10^k` and rounds the quotient as `mode` says. A shift longer than the
coefficient leaves less than a tenth, which rounds to zero. -/
def shiftRound (mode : Rounding) (c k : Nat) : Nat :=
  if k > digitCount c then 0
  else
    let den := Nat.pow 10 k
    let q := c / den
    let r := c % den
    if 2 * r > den then q + 1
    else if 2 * r < den then q
    else
      match mode with
      | .halfUp => if r == 0 then q else q + 1
      | .halfEven => if q % 2 == 0 then q else q + 1

/-- The value `0` with a positive sign. -/
def zero : Decimal := .finite false 0 0

/-- The decimal of an integer, with exponent `0`. -/
def ofInt (n : Int) : Decimal :=
  .finite (n < 0) n.natAbs 0

/-- Whether the number is a NaN, quiet or signaling. -/
def isNan : Decimal → Bool
  | nan .. => true
  | _ => false

/-- Rounds a finite result to the context's precision, keeping its exponent when it fits. -/
def fitPrecision (ctx : Context) (negative : Bool) (c : Nat) (e : Int) : Decimal :=
  let n := digitCount c
  if n ≤ ctx.precision then .finite negative c e
  else
    let drop := n - ctx.precision
    let c' := shiftRound ctx.rounding c drop
    -- a carry may add a digit: drop one more
    if digitCount c' > ctx.precision then
      .finite negative (shiftRound ctx.rounding c (drop + 1)) (e + drop + 1)
    else .finite negative c' (e + drop)

/-- The NaN that an operation on a quiet NaN returns: the first NaN operand. A signaling NaN makes
the operation invalid. -/
def propagateNan (a b : Decimal) : Option (Option Decimal) :=
  match a, b with
  | nan _ true _, _ => some none
  | _, nan _ true _ => some none
  | nan n false p, _ => some (some (nan n false p))
  | _, nan n false p => some (some (nan n false p))
  | _, _ => none

/-- Exact sum of two finite numbers, before rounding. The sign of a zero sum is positive, unless
both operands are negative. -/
def addFinite (na : Bool) (ca : Nat) (ea : Int) (nb : Bool) (cb : Nat) (eb : Int) :
    Bool × Nat × Int :=
  let e := min ea eb
  let a := (ca * Nat.pow 10 (ea - e).toNat : Nat)
  let b := (cb * Nat.pow 10 (eb - e).toNat : Nat)
  let sa : Int := if na then -(a : Int) else a
  let sb : Int := if nb then -(b : Int) else b
  let s := sa + sb
  let negative := if s == 0 then na && nb else s < 0
  (negative, s.natAbs, e)

/-- The sum of two numbers in a context. Adding opposite infinities is invalid. -/
def add (ctx : Context) (a b : Decimal) : Option Decimal :=
  match propagateNan a b with
  | some r => r
  | none =>
    match a, b with
    | infinity na, infinity nb => if na == nb then some (infinity na) else none
    | infinity na, _ => some (infinity na)
    | _, infinity nb => some (infinity nb)
    | finite na ca ea, finite nb cb eb =>
      let (n, c, e) := addFinite na ca ea nb cb eb
      some (fitPrecision ctx n c e)
    | _, _ => none

/-- The number with its sign turned. -/
def neg : Decimal → Decimal
  | finite n c e => finite (!n) c e
  | infinity n => infinity (!n)
  | nan n s p => nan (!n) s p

/-- The difference of two numbers in a context. -/
def sub (ctx : Context) (a b : Decimal) : Option Decimal :=
  match propagateNan a b with
  | some r => r
  | none => add ctx a b.neg

/-- The product of two numbers in a context. Zero times an infinity is invalid. -/
def mul (ctx : Context) (a b : Decimal) : Option Decimal :=
  match propagateNan a b with
  | some r => r
  | none =>
    match a, b with
    | finite na ca ea, finite nb cb eb => some (fitPrecision ctx (na != nb) (ca * cb) (ea + eb))
    | infinity na, finite nb cb _ => if cb == 0 then none else some (infinity (na != nb))
    | finite na ca _, infinity nb => if ca == 0 then none else some (infinity (na != nb))
    | infinity na, infinity nb => some (infinity (na != nb))
    | _, _ => none

/-- The number rounded to exponent `exp` as `mode` says. The result may keep at most the context's
precision in digits; an infinity cannot be quantized; a quiet NaN stays itself. -/
def quantize (ctx : Context) (mode : Rounding) (d : Decimal) (exp : Int) : Option Decimal :=
  match d with
  | nan _ true _ => none
  | nan n false p => some (nan n false p)
  | infinity _ => none
  | finite n c e =>
    if e ≥ exp then
      let k := (e - exp).toNat
      if c == 0 then some (finite n 0 exp)
      else if digitCount c + k > ctx.precision then none
      else some (finite n (c * Nat.pow 10 k) exp)
    else
      let c' := shiftRound mode c (exp - e).toNat
      if digitCount c' > ctx.precision then none else some (finite n c' exp)

/-- Compares the values of two non-NaN numbers; `-0` equals `0`. -/
def compareValue : Decimal → Decimal → Ordering
  | infinity na, infinity nb =>
    if na == nb then .eq else if na then .lt else .gt
  | infinity na, _ => if na then .lt else .gt
  | _, infinity nb => if nb then .gt else .lt
  | finite na ca ea, finite nb cb eb =>
    let (n, c, _) := addFinite na ca ea (!nb) cb eb
    if c == 0 then .eq else if n then .lt else .gt
  | _, _ => .eq

/-- Orders two numbers; a NaN has no place in the order, so the comparison is invalid. -/
def compare? (a b : Decimal) : Option Ordering :=
  if a.isNan || b.isNan then none else some (compareValue a b)

/-- Removes trailing zeros of the coefficient while the exponent stays at most `ideal`, taking at
most `steps` of them. -/
def towardExponent (c : Nat) (e ideal : Int) : Nat → Nat × Int
  | 0 => (c, e)
  | steps + 1 =>
    if e < ideal && c % 10 == 0 && c != 0 then towardExponent (c / 10) (e + 1) ideal steps
    else (c, e)

/-- A number divided by one hundred. The exact quotient keeps the dividend's exponent as far as its
trailing zeros allow; a quotient with more digits than the precision is rounded. -/
def perHundred (ctx : Context) : Decimal → Option Decimal
  | nan _ true _ => none
  | nan n false p => some (nan n false p)
  | infinity n => some (infinity n)
  | finite n c e =>
    if c == 0 then some (finite n 0 e)
    else
      match fitPrecision ctx n c (e - 2) with
      | finite n' c' e' =>
        let exact := c' * Nat.pow 10 (e' - (e - 2)).toNat == c
        if exact then
          let (c'', e'') := towardExponent c' e' e (e - e').toNat
          some (finite n' c'' e'')
        else some (finite n' c' e')
      | other => some other

/-- The double nearest to a number. A signaling NaN has no double. -/
def toFloat? : Decimal → Option Float
  | finite n c e => some (Float.ofDecimal n c e)
  | infinity n => some (Float.infinity n)
  | nan _ false _ => some (0.0 / 0.0)
  | nan _ true _ => none

/-- Why a number has no integer part. -/
inductive NoIntegerPart where
  | notANumber
  | infinite

/-- The integer part of a number, truncated toward zero. -/
def truncate? : Decimal → Except NoIntegerPart Int
  | finite n c e =>
    let m : Nat := if e ≥ 0 then c * Nat.pow 10 e.toNat else shiftDown c (-e).toNat
    .ok (if n then -(m : Int) else m)
  | infinity _ => .error .infinite
  | nan .. => .error .notANumber
where
  shiftDown (c k : Nat) : Nat := if k > digitCount c then 0 else c / Nat.pow 10 k

/-! ## Text -/

/-- The scientific text of a number: positional when the exponent is not positive and the leading
digit is at most six places after the point (`0.10`, `-0.0`, `100`, `0.000001`), otherwise one digit,
a point, the rest and an exponent (`1E-7`, `1E+16`, `1.5E+3`). -/
def toText : Decimal → String
  | nan n s p =>
    (if n then "-" else "") ++ (if s then "sNaN" else "NaN") ++ (if p == 0 then "" else toString p)
  | infinity n => (if n then "-" else "") ++ "Infinity"
  | finite n c e =>
    let sign := if n then "-" else ""
    let ds := Nat.toDigits 10 c
    let len := ds.length
    let adjusted := e + len - 1
    if e ≤ 0 ∧ adjusted ≥ -6 then
      let point := (-e).toNat
      if point == 0 then sign ++ String.ofList ds
      else if len > point then
        sign ++ String.ofList (ds.take (len - point)) ++ "." ++ String.ofList (ds.drop (len - point))
      else
        sign ++ "0." ++ String.ofList (List.replicate (point - len) '0') ++ String.ofList ds
    else
      let mantissa :=
        match ds with
        | [d] => String.singleton d
        | d :: rest => String.singleton d ++ "." ++ String.ofList rest
        | [] => "0"
      sign ++ mantissa ++ "E" ++ (if adjusted ≥ 0 then "+" else "") ++ toString adjusted

/-- The digits of a list of characters as a natural, or `none` when one is no ASCII digit. -/
def digitsValue? (cs : List Char) : Option Nat :=
  cs.foldl (fun acc c => acc.bind fun n =>
    if c.isDigit then some (10 * n + (c.toNat - '0'.toNat)) else none) (some 0)

/-- The largest adjusted exponent a number may have, and the negated least one: `10^18 - 1`. -/
def exponentBound : Int := 999999999999999999

/-- Whether a number read from text can be held exactly: its adjusted exponent (the exponent of its
leading digit) is at most `exponentBound`, and a number whose adjusted exponent is below
`-exponentBound` keeps its exponent at least `-(2 · exponentBound - 1)`. -/
def representable : Decimal → Bool
  | finite _ c e =>
    let adjusted := e + digitCount c - 1
    if adjusted > exponentBound then false
    else if adjusted < -exponentBound then e ≥ -(2 * exponentBound - 1)
    else true
  | _ => true

/-- Reads `[digits][.digits][e[sign]digits]` after the sign, lower-cased; a number that cannot be
held exactly is refused. -/
def finiteOf? (negative : Bool) (body : List Char) : Option Decimal :=
  let (mant, expPart) := (body.takeWhile (· != 'e'), body.dropWhile (· != 'e'))
  let intPart := mant.takeWhile (· != '.')
  let fracPart := (mant.dropWhile (· != '.')).drop 1
  let hasPoint := mant.contains '.'
  if intPart.isEmpty && fracPart.isEmpty then none
  else if hasPoint && (fracPart.contains '.') then none
  else do
    let c ← digitsValue? (intPart ++ fracPart)
    let e ← match expPart with
      | [] => some (0 : Int)
      | _ :: rest =>
        match rest with
        | '+' :: ds => if ds.isEmpty then none else (digitsValue? ds).map (fun n => (n : Int))
        | '-' :: ds => if ds.isEmpty then none else (digitsValue? ds).map (fun n => -(n : Int))
        | ds => if ds.isEmpty then none else (digitsValue? ds).map (fun n => (n : Int))
    let d := finite negative c (e - fracPart.length)
    if representable d then some d else none

/-- Reads a number from text: blanks around it are ignored, underscores anywhere are dropped,
digits of any script count, and `Inf`, `Infinity`, `NaN` and `sNaN` (with an optional payload of
digits) are read without regard to case. -/
def ofString? (s : String) : Option Decimal :=
  let raw := (Text.trimBlank s).toList.filter (· != '_')
  if raw.any (fun c => c.toNat == 0) then none
  else
    let cs := raw.map (fun c =>
      match Text.digitValue? c with
      | some v => Char.ofNat ('0'.toNat + v)
      | none => c.toLower)
    let (negative, body) :=
      match cs with
      | '-' :: rest => (true, rest)
      | '+' :: rest => (false, rest)
      | _ => (false, cs)
    match body with
    | ['i', 'n', 'f'] => some (infinity negative)
    | ['i', 'n', 'f', 'i', 'n', 'i', 't', 'y'] => some (infinity negative)
    | 'n' :: 'a' :: 'n' :: payload => (digitsValue? payload).map (nan negative false)
    | 's' :: 'n' :: 'a' :: 'n' :: payload => (digitsValue? payload).map (nan negative true)
    | _ => finiteOf? negative body

end Decimal

end Bazaar
