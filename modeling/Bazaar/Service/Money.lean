import Bazaar.Money

/-!
# Money requests

A money request names one of the four conversions and gives an amount, which may be any value,
and a currency code. The answer is `{"value": …}` or the fault.
-/

namespace Bazaar

namespace Service

/-- The currency code of a request; a missing or non-text code has no case to fold. -/
def currencyText (v : Json) : Except Fault String :=
  match v with
  | .str s => .ok s
  | _ => .error .missingAttribute

/-- Runs one conversion on an amount and a currency. -/
def convertMoney (fn : String) (amount currency : Json) : Except Fault Json :=
  match fn with
  | "round_money" => do
    return .float (← Money.round amount)
  | "to_decimal" => do
    return .str (← Json.asDecimal amount).toText
  | "to_minor_units" => do
    let value ← Json.asDecimal amount
    let code ← currencyText currency
    return .int (← Money.toMinorUnits value code)
  | "from_minor_units" => do
    let code ← currencyText currency
    if Money.isZeroDecimal code then
      return .float (← Json.asFloat amount)
    else
      return .float (← Money.fromMinorUnits (← Json.asInteger amount))
  | _ => .error .badValue

/-- Answers a money request. -/
def moneyAnswer (req : Json) : Json :=
  match convertMoney ((req.fieldOrNull "fn").display) (req.fieldOrNull "amount")
      (req.fieldOrNull "currency") with
  | .ok v => .obj [("value", v)]
  | .error f => f.toJson

end Service

end Bazaar
