import Bazaar.Coupon
import Bazaar.Service.Body
import Bazaar.Time.Iso8601

/-!
# Coupon requests

A coupon request gives the fields of a coupon, which is created as the marketplace creates it, and
either a cart total to evaluate it against or a number of uses to count. The clock is the request's
`now`, an ISO 8601 text, or else the reference instant.
-/

namespace Bazaar

namespace Service

/-- The instant of a request's `now`: its clock text, or the reference instant without one. -/
def requestNow (req : Json) : Except Fault Instant :=
  match req.fieldOrNull "now" with
  | .null => .ok (Instant.ofSeconds referenceNow)
  | .str s =>
    match Instant.ofIsoText? s with
    | some i => .ok i
    | none => .error .badValue
  | _ => .error .wrongType

/-- The coupon of a request, created from the fields it gives. -/
def requestCoupon (req : Json) : Except Fault Coupon :=
  match req.fieldOrNull "coupon" with
  | .obj fields => Coupon.create fields ""
  | _ => .error .wrongType

/-- A verdict as an answer. -/
def evaluationJson (e : Coupon.Evaluation) : Json :=
  .obj [("valid", .bool e.valid), ("reason", (e.reason.map Json.str).getD .null),
    ("discount", .float e.discount)]

/-- Answers a request to evaluate a coupon against a cart total. -/
def couponEvaluateAnswer (req : Json) : Json :=
  answerOf do
    let c ← requestCoupon req
    let now ← requestNow req
    return evaluationJson (← c.evaluate (req.fieldOrNull "cart_total") now)

/-- Counts `n` uses of a coupon, each refusal answered in its place. -/
def countUses (c : Coupon) : Nat → List Json
  | 0 => []
  | n + 1 =>
    match c.incrementUsage with
    | .ok c' => .obj [("times_used", .int c'.timesUsed)] :: countUses c' n
    | .error f => f.toJson :: countUses c n

/-- Answers a request to count uses of a coupon. -/
def couponAnswer (req : Json) : Json :=
  answerOf do
    let c ← requestCoupon req
    let now ← requestNow req
    let n ← match req.fieldOrNull "increments" with
      | .null => pure 0
      | .int n => pure n.toNat
      | _ => throw .wrongType
    return .obj [("code", .str c.code), ("expired", .bool (c.isExpired now)),
      ("limit_reached", .bool c.limitReached), ("increments", .arr (countUses c n))]

end Service

end Bazaar
