import Bazaar.Service.OrderView
import Bazaar.Service.Aliases

/-!
# Order state machine requests

A request places one order and then runs a list of actions on it, each from where the last one
left the order, failed or not. The answer shows the placed order and, for each action, its result
or fault, the order's state after it and the events it raised. A step that is not an object
naming its action under `do` fails the whole request. A payment action without an amount pays
zero.
-/

namespace Bazaar

namespace Service

/-- The identifier given to the order of a state machine request: the first order placed. -/
def machineOrderId : String := (Generated.order 1).token

/-- A placement from the fields of a request; items and a shipping address left out are nothing. -/
def placementOf (place : Json) : Except Fault Placement := do
  let given (key : String) (fallback : Json) : Json := (place.field? key).getD fallback
  return {
      customerId := given "customer_id" (.str "cust-1"), items := given "items" .null,
      shippingAddress := given "shipping_address" .null,
      billingAddress := given "billing_address" .null,
      paymentMethod := given "payment_method" (.str "CARD"),
      shippingFee := given "shipping_fee" (.float 0.0), currency := given "currency" (.str "usd"),
      discountAmount := given "discount_amount" (.float 0.0),
      couponId := given "coupon_id" .null, couponCode := given "coupon_code" .null }

/-- The status named by a request value; an unknown name is refused. -/
def statusOf (v : Json) : Except Fault OrderStatus :=
  match v with
  | .str s =>
    match OrderStatus.ofName? s with
    | some st => .ok st
    | none => .error .badValue
  | _ => .error .badValue

/-- The action a request step names, as an action whose result is shown as JSON. -/
def machineAction (o : Order) (step : Json) : Except Fault (OrderAction Json) := do
  let arg (key : String) : Json := step.fieldOrNull key
  let amount : Json := (step.field? "amount").getD (.float 0.0)
  let unit (a : OrderAction Unit) : OrderAction Json := do a; return .null
  let flag (a : OrderAction Bool) : OrderAction Json := do return .bool (← a)
  match (step.fieldOrNull "do").display with
  | "confirm_payment" => return unit (Order.confirmPayment amount (arg "transaction_id"))
  | "record_late_payment" =>
    return unit (Order.recordLatePayment amount (arg "transaction_id"))
  | "record_payment_failure" => return unit (Order.recordPaymentFailure (arg "reason"))
  | "cancel" =>
    let st ← statusOf ((step.field? "status").getD (.str "CANCELLED_BY_CUSTOMER"))
    return flag (Order.cancel st)
  | "mark_stock_restored" => return unit Order.markStockRestored
  | "update_status" => return flag (Order.updateStatus (← statusOf (arg "status")))
  | "add_tracking_number" => return flag (Order.addTrackingNumber (arg "tracking_number"))
  | "record_checkout_session" => return unit (Order.recordCheckoutSession (arg "session_id"))
  | "is_duplicate_payment_confirmation" => return pure (.bool o.isDuplicatePaymentConfirmation)
  | "is_owned_by" => return pure (.bool (o.isOwnedBy (arg "customer_id")))
  | _ => throw .badValue

/-- Runs the steps of a request on an order, each answered with its result or fault, the state
after it and its events. -/
def runSteps (o : Order) : List Json → List Json
  | [] => []
  | step :: rest =>
    match machineAction o step with
    | .error f =>
      .obj (f.members ++ [("state", orderState o), ("events", .arr [])]) :: runSteps o rest
    | .ok act =>
      let (r, o', es) := OrderAction.run act o
      let head := match r with
        | .ok v => [("ret", v)]
        | .error f => f.members
      .obj (head ++ [("state", orderState o'), ("events", .arr (es.map OrderEvent.toJson))])
        :: runSteps o' rest

/-- Checks that every step is an object naming its action under `do`. -/
def checkSteps : List Json → Except Fault Unit
  | [] => .ok ()
  | .obj fields :: rest =>
    if fields.any (fun kv => kv.1 == "do") then checkSteps rest else .error .missingKey
  | _ :: _ => .error .wrongType

/-- Answers a state machine request. -/
def orderMachineAnswer (req : Json) : Json :=
  answerOf do
    let p ← placementOf (req.fieldOrNull "place")
    let (o, placed) ← Order.place machineOrderId p
    let steps ← match req.fieldOrNull "actions" with
      | .arr xs => pure xs
      | .null => pure []
      | _ => throw .wrongType
    checkSteps steps
    let steps := resolveItems 1 0 steps
    return .obj [("placed", .obj [("state", orderState o),
        ("amounts", .obj (orderAmounts OrderItem.snapshot o)),
        ("events", .arr [placed.toJson])]),
      ("steps", .arr (runSteps o steps))]

end Service

end Bazaar
