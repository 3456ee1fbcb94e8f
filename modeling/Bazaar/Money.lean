import Bazaar.Json.Coerce
import Bazaar.Text.Case

/-!
# Money

Amounts are doubles, but every amount the marketplace stores is rounded through exact decimals:
the decimal of an amount is the decimal of its shortest text, and rounding to cents takes halves
away from zero, so `1.005` becomes `1.01` and `2.675` becomes `2.68`. The gateway counts in minor
units: a hundredth for most currencies, the whole unit for the twelve without a fractional unit.
-/

namespace Bazaar

namespace Money

/-- The currencies settled without a fractional unit, in lower case. -/
def zeroDecimalCurrencies : List String :=
  ["bif", "clp", "djf", "gnf", "jpy", "kmf", "krw", "mga", "pyg", "rwf", "vnd", "xaf"]

/-- Whether a currency has no fractional unit, whatever the case of its code. -/
def isZeroDecimal (currency : String) : Bool :=
  zeroDecimalCurrencies.contains (Text.toLower currency)

/-- A decimal rounded to `exp` halves away from zero, in the standard context. -/
def quantizeHalfUp (d : Decimal) (exp : Int) : Except Fault Decimal :=
  match Decimal.quantize Decimal.Context.standard .halfUp d exp with
  | some r => .ok r
  | none => .error .invalidDecimal

/-- The double of a decimal; a signaling NaN has none. -/
def decimalToFloat (d : Decimal) : Except Fault Float :=
  match d.toFloat? with
  | some x => .ok x
  | none => .error .badValue

/-- The integer part of a decimal. -/
def decimalToInt (d : Decimal) : Except Fault Int :=
  match d.truncate? with
  | .ok n => .ok n
  | .error .notANumber => .error .badValue
  | .error .infinite => .error (.overflow "cannot convert Infinity to integer")

/-- A decimal rounded to cents, halves away from zero, as a double. -/
def roundDecimal (d : Decimal) : Except Fault Float := do
  decimalToFloat (← quantizeHalfUp d (-2))

/-- An amount rounded to cents: the decimal of its text, rounded halves away from zero. -/
def round (amount : Json) : Except Fault Float := do
  roundDecimal (← Json.asDecimal amount)

/-- A double rounded to cents. -/
def roundFloat (x : Float) : Except Fault Float :=
  round (.float x)

/-- The decimal of a double's shortest text. -/
def decimalOfFloat (x : Float) : Except Fault Decimal :=
  Json.asDecimal (.float x)

/-- Arithmetic in the standard context; an undefined result is an invalid operation. -/
def arith (r : Option Decimal) : Except Fault Decimal :=
  match r with
  | some d => .ok d
  | none => .error .invalidDecimal

/-- A major-unit amount in minor units: rounded half up to a whole unit for a currency without a
fractional unit, else to a whole hundredth. -/
def toMinorUnits (value : Decimal) (currency : String) : Except Fault Int := do
  if isZeroDecimal currency then
    decimalToInt (← quantizeHalfUp value 0)
  else
    let scaled ← arith (Decimal.mul .standard value (Decimal.ofInt 100))
    decimalToInt (← quantizeHalfUp scaled 0)

/-- A minor-unit amount in major units, from its integer part. -/
def fromMinorUnits (amountMinor : Int) : Except Fault Float := do
  let d := Decimal.finite (amountMinor < 0) amountMinor.natAbs (-2)
  match Decimal.quantize .standard .halfEven d (-2) with
  | some q => decimalToFloat q
  | none => .error .invalidDecimal

end Money

end Bazaar
