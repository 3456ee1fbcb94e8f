import Bazaar.Record.Field
import Bazaar.Money
import Bazaar.Number.Fixed
import Bazaar.Text.Blank
import Bazaar.Text.Case

/-!
# Coupons

A coupon is a discount code: a percentage of the cart or a fixed amount, valid until its expiry,
for carts of at least a minimum amount, and optionally for a limited number of uses. Its code is
kept without surrounding blanks and in upper case (with full case mapping, so `straße` is
`STRASSE`), and the length limit applies to that form.

A coupon always satisfies two rules: its uses never exceed its limit, and a percentage is at most
one hundred. Evaluating a coupon against a cart total checks, in order and stopping at the first
failure, that it is active, not expired, not used up, and that the total reaches the minimum; the
discount is then the percentage of the total or the fixed amount, at most the total and at least
zero, rounded to cents.
-/

namespace Bazaar

/-- How a coupon's discount is computed. -/
inductive DiscountKind where
  | percentage
  | fixedAmount
  deriving BEq

namespace DiscountKind

/-- The name of a discount kind in records. -/
def name : DiscountKind → String
  | percentage => "PERCENTAGE"
  | fixedAmount => "FIXED_AMOUNT"

/-- The discount kind of a name. -/
def ofName (s : String) : DiscountKind :=
  if s == "PERCENTAGE" then percentage else fixedAmount

end DiscountKind

/-- A discount code with its terms and its count of uses. -/
structure Coupon where
  id : String
  code : String
  description : Option String
  kind : DiscountKind
  value : Float
  expiry : Instant
  minimum : Float
  active : Bool
  usageLimit : Option Int
  timesUsed : Int

namespace Coupon

/-- Checks the values of a coupon's fields; `id` stands in when none is given. Values given under
other names are ignored. -/
def ofFields (given : Field.Given) (id : String) : Validation Coupon :=
  (fun i c d k v e m a l t => Coupon.mk (i.getD id) c d (DiscountKind.ofName k) v e m a l t)
    <$> Field.optional given "id" (Field.identifier 0)
    <*> Field.required given "code" (Field.text 1 (some 50))
    <*> Field.optional given "description" (Field.text 0 (some 255))
    <*> Field.required given "discount_type" (Field.choice ["PERCENTAGE", "FIXED_AMOUNT"])
    <*> Field.required given "discount_value" (Field.number (some 0))
    <*> Field.required given "expiry_date" Field.instant
    <*> Field.withFallback given "min_purchase_amount" 0.0 (Field.number (some 0))
    <*> Field.withFallback given "is_active" true Field.flag
    <*> Field.optional given "usage_limit" (Field.integer (some 0))
    <*> Field.withFallback given "times_used" 0 (Field.integer (some 0))

/-- Whether the limit of uses is set and reached. -/
def limitReached (c : Coupon) : Bool :=
  match c.usageLimit with
  | some l => c.timesUsed ≥ l
  | none => false

/-- The rules every coupon keeps: no more uses than its limit, no percentage above one hundred. -/
def rules (c : Coupon) : Messages :=
  let usage : Messages :=
    match c.usageLimit with
    | some l => if c.timesUsed > l then
        Messages.single "times_used" "Coupon usage cannot exceed its usage limit" else []
    | none => []
  let percent : Messages :=
    if c.kind == .percentage && c.value > 100.0 then
      Messages.single "discount_value" "Percentage discount cannot exceed 100" else []
  usage.merge percent

/-- A coupon from the values of its fields, its code given without surrounding blanks and in upper
case; `id` stands in when none is given. The code, discount type, discount value and expiry date
are always passed, as `null` when left out, so a missing one is refused as `null` is. -/
def create (given : Field.Given) (id : String) : Except Fault Coupon := do
  let given := ["code", "discount_type", "discount_value", "expiry_date"].foldl
    (fun g key => if (Field.lookup g key).isNone then g ++ [(key, .null)] else g) given
  let code ← match Field.lookup given "code" with
    | some (.str s) => pure (Text.toUpper (Text.trimBlank s))
    | _ => throw .missingAttribute
  let c : Coupon ← (ofFields (Json.setField given "code" (.str code)) id).toExcept
  match c.rules with
  | [] => pure c
  | ms => throw (Fault.invalid ms)

/-- Whether the coupon expired strictly before `now`. -/
def isExpired (c : Coupon) (now : Instant) : Bool :=
  c.expiry.isBefore now

/-- Counts one more use; a coupon whose limit is reached refuses it. -/
def incrementUsage (c : Coupon) : Except Fault Coupon :=
  if c.limitReached then
    .error (.field "coupon_code" ("Coupon " ++ c.code ++ " has reached its usage limit"))
  else .ok { c with timesUsed := c.timesUsed + 1 }

/-- The verdict on a coupon for a cart: whether it applies, why not, and the discount. -/
structure Evaluation where
  valid : Bool
  reason : Option String
  discount : Float

/-- The verdict that a coupon does not apply, and why. -/
def Evaluation.refused (reason : String) : Evaluation :=
  ⟨false, some reason, 0.0⟩

/-- Orders two decimals; a NaN makes the comparison invalid. -/
def compareDecimal (a b : Decimal) : Except Fault Ordering :=
  match Decimal.compare? a b with
  | some o => .ok o
  | none => .error .invalidDecimal

/-- Evaluates a coupon against a cart total at `now`. -/
def evaluate (c : Coupon) (cartTotal : Json) (now : Instant) : Except Fault Evaluation := do
  if !c.active then return .refused ("Coupon " ++ c.code ++ " is not active")
  if c.isExpired now then return .refused ("Coupon " ++ c.code ++ " has expired")
  if c.limitReached then return .refused ("Coupon " ++ c.code ++ " has reached its usage limit")
  let total ← Json.asDecimal cartTotal
  let minimum ← Money.decimalOfFloat c.minimum
  if (← compareDecimal total minimum) == .lt then
    let shown ← Money.roundDecimal minimum
    return .refused ("Minimum purchase amount of " ++ Float.fixedText 2 shown ++
      " is required for coupon " ++ c.code)
  let value ← Money.decimalOfFloat c.value
  let discount ← match c.kind with
    | .percentage => do
      let product ← Money.arith (Decimal.mul .standard total value)
      Money.arith (Decimal.perHundred .standard product)
    | .fixedAmount => pure value
  let capped := if (← compareDecimal total discount) == .lt then total else discount
  let floored := if (← compareDecimal capped Decimal.zero) == .gt then capped else Decimal.zero
  return ⟨true, none, ← Money.roundDecimal floored⟩

end Coupon

end Bazaar
