import Bazaar.Market.Catalogue
import Bazaar.Market.Command
import Bazaar.Service.OrderView
import Bazaar.Service.Webhook
import Bazaar.Service.Aliases
import Bazaar.Service.Coupon
import Bazaar.Service.Web

/-!
# Scenarios

A scenario runs a list of steps against one marketplace, each step from where the last one left
it. Steps set the marketplace up (settings, products, coupons, planned stock conflicts, the
gateway and the notifier), work the stock ledger directly, run commands (each command one unit of
work, so a failing command changes no record), and read records back. Every step answers its
result or its fault, together with the stock of every stored product after it.

Commands take from a step only the fields it gives, so that a missing field falls to its default
or is reported as required; other steps read a missing argument as `null`.
-/

namespace Bazaar

namespace Service

open Market

/-- A step's argument; a missing one is `null`. -/
def stepArg (st : Json) (key : String) : Json :=
  st.fieldOrNull key

/-- The arguments of a step given to a command, each step key paired with its field name. -/
def commandGiven (st : Json) (names : List (String × String)) : Field.Given :=
  names.filterMap fun kv => (st.field? kv.1).map fun v => (kv.2, v)

/-- A value given for a text field of JSON: a text as it is, any other value but `null` as its
JSON text. -/
def jsonTextArg (v : Json) : Json :=
  match v with
  | .str _ | .null => v
  | other => .str (Json.standardText other)

/-- The arguments of a step that give JSON texts, converted. -/
def withJsonTexts (given : Field.Given) (keys : List String) : Field.Given :=
  given.map fun kv => if keys.contains kv.1 then (kv.1, jsonTextArg kv.2) else kv

/-- The members of a step other than the named ones. -/
def stepFieldsExcept (st : Json) (keys : List String) : Field.Given :=
  match st with
  | .obj fields => fields.filter fun kv => !keys.contains kv.1
  | _ => []

/-- An argument that must be given. -/
def requiredArg (st : Json) (key : String) : MarketM Json :=
  match st.field? key with
  | some v => pure v
  | none => fail .missingKey

/-- A whole number argument with a default for a missing one. -/
def wholeArg (st : Json) (key : String) (fallback : Int) : MarketM Int :=
  match st.field? key with
  | none => pure fallback
  | some (.int n) => pure n
  | some (.bool b) => pure (if b then 1 else 0)
  | some _ => fail .wrongType

/-- A text argument with a default for a missing one. -/
def textArgOr (st : Json) (key : String) (fallback : String) : String :=
  match st.field? key with
  | some (.str s) => s
  | some v => v.display
  | none => fallback

/-- A flag argument with a default for a missing one, read as a truth value. -/
def flagArgOr (st : Json) (key : String) (fallback : Bool) : Bool :=
  match st.field? key with
  | some v => v.truthy
  | none => fallback

/-- A status named by a value; a false value names none and an unknown name is refused. -/
def optionalStatus (v : Json) : MarketM (Option OrderStatus) :=
  if !v.truthy then pure none
  else
    match v with
    | .str s =>
      match OrderStatus.ofName? s with
      | some st => pure (some st)
      | none => fail .badValue
    | _ => fail .badValue

/-- The role named by a value; an unknown name is refused. -/
def roleOf (v : Json) : MarketM ActorRole :=
  match v with
  | .str s =>
    match ActorRole.ofName? s with
    | some r => pure r
    | none => fail .badValue
  | _ => fail .badValue

/-- The stock of every stored product. -/
def stockJson (m : Market) : Json :=
  .obj (m.store.products.map fun p => (p.id, .int p.stock))

/-- A product as a step shows it. -/
def productJson (p : Product) : Json :=
  .obj [("stock", .int p.stock), ("version", .int p.version), ("price", .float p.price),
    ("name", .str p.name), ("purchasable", .bool p.isPurchasable)]

/-- A coupon as a step shows it. -/
def couponJson (c : Coupon) : Json :=
  .obj [("code", .str c.code), ("times_used", .int c.timesUsed),
    ("usage_limit", (c.usageLimit.map Json.int).getD .null), ("is_active", .bool c.active)]

/-- The coupon with a code, if any; a missing or empty code finds none, and a code that is no
text cannot be trimmed. -/
def couponByCode (code : Json) : MarketM (Option Coupon) :=
  if !code.truthy then pure none
  else match code with
    | .str s => findCoupon s
    | _ => fail .missingAttribute

/-- The cart view as a step shows it. -/
def cartJson (v : CartView) : Json :=
  .obj [("customer_id", .str v.customerId),
    ("lines", .arr (v.lines.map fun l =>
      .obj [("product_id", .str l.productId), ("product_name", .str l.productName),
        ("quantity", .int l.quantity), ("unit_price", .float l.unitPrice),
        ("line_total", .float l.lineTotal), ("available", .bool l.available)])),
    ("item_count", .int v.itemCount), ("subtotal", .float v.subtotal)]

/-- An order as a step shows it: its amounts, with each line's seller, its state and its
identifier. -/
def orderJson (o : Order) : Json :=
  let state := match orderState o with
    | .obj fs => fs
    | _ => []
  .obj (orderAmounts OrderItem.snapshotWithSeller o ++ state ++ [("order_id", .str o.id)])

/-- A page of orders as a step shows it. -/
def pageJson (p : OrderPage) : Json :=
  .obj [("orders", .arr (p.orders.map fun o =>
      .obj [("order_id", .str o.id), ("customer_id", .str o.customerId),
        ("status", .str o.status.name)])),
    ("total", .int p.total), ("offset", p.offset), ("limit", p.limit)]

/-- A gateway call as a step shows it. -/
def gatewayCallJson (c : GatewayCall) : Json :=
  .obj [("method", .str "create_session"), ("amount_minor_units", .int c.amountMinor),
    ("currency", .str c.currency), ("success_url", c.successUrl), ("cancel_url", c.cancelUrl),
    ("metadata", .obj (c.metadata.map fun kv => (kv.1, .str kv.2))),
    ("description", .str c.description)]

/-- A payment record as a step shows it, its gateway response read back from its JSON text. -/
def paymentJson (p : Payment) : Json :=
  let response := match p.gatewayResponse with
    | some t =>
      match Json.parseText t with
      | .ok v => v
      | .error _ => .str t
    | none => .null
  .obj [("customer_id", .str p.customerId), ("amount", .float p.amount),
    ("currency", .str p.currency), ("status", .str p.outcome.name),
    ("gateway_transaction_id", (p.transactionId.map Json.str).getD .null),
    ("failure_reason", (p.failureReason.map Json.str).getD .null),
    ("gateway_response", response)]

/-- The link of a notice. -/
def linkJson (link : Option String) : Json :=
  (link.map Json.str).getD .null

/-- The recording notifier's list; the inbox notifier has none. -/
def recorded : MarketM (List Notice × Bool) := do
  match (← get).notifier with
  | .recording sent succeeds => pure (sent, succeeds)
  | .inbox => fail .missingAttribute

/-- The inbox rows of a user, newest first. -/
def inboxOf (user : Json) : MarketM (List Notice) := do
  return ((← records).inbox.filter (·.userId == user.display)).reverse

/-- The element of a list at a position counted as lists are indexed: from the end when negative. -/
def atIndex {α : Type} (xs : List α) (i : Int) : Option Nat :=
  let j := if i < 0 then i + xs.length else i
  if 0 ≤ j && j < xs.length then some j.toNat else none

/-- Marks the index-th inbox row of a user as read. -/
def markRead (user : Json) (index : Int) : MarketM Unit := do
  let rows ← inboxOf user
  let some j := atIndex rows index | fail .indexOutOfRange
  -- rows are newest first; the store keeps them oldest first
  let all := (← records).inbox
  let positions := (List.range all.length).filter fun k =>
    match all[k]? with
    | some n => n.userId == user.display
    | none => false
  match positions.reverse[j]? with
  | some k =>
    let read (n : Notice) : Notice := { n with isRead := true }
    updateStore fun s => { s with inbox := s.inbox.modify k read }
  | none => fail .indexOutOfRange

/-- The fields of the cart commands that name a line. -/
def cartLineFields : List (String × String) :=
  [("customer_id", "customer_id"), ("product_id", "product_id"), ("quantity", "quantity")]

/-- Replaces the settings, and with them the gateway, which forgets its calls and failure mode.
The values are kept as given. -/
def applySettings (st : Json) : MarketM Unit := do
  let given (key : String) (fallback : Json) : Json := (st.field? key).getD fallback
  let s : Settings := {
      shippingFee := given "shipping_fee" (.float 0.0),
      currency := given "currency" (.str "usd"),
      stockConflictMaxAttempts := given "stock_conflict_max_attempts" (.int 3),
      webhookToleranceSeconds := given "webhook_tolerance_seconds" (.int 300),
      webhookSecret := given "webhook_secret" (.str "whsec_test_secret") }
  let g : Gateway := { webhookSecret := s.webhookSecret, tolerance := s.webhookToleranceSeconds }
  modify fun m => { m with settings := s, gateway := g }

/-- The outcomes planned for the next compare-and-swap calls on a product. -/
def plannedOutcomes (st : Json) : MarketM (List Bool) := do
  match st.field? "pattern" with
  | some (.arr xs) => pure (xs.map Json.truthy)
  | some _ => fail .wrongType
  | none =>
    let n ← wholeArg st "count" 1
    pure (List.replicate n.toNat false)

/-- The stock setup and ledger steps. -/
def ledgerStep (op : String) (st : Json) : MarketM Json := do
  let product := (stepArg st "product_id").display
  match op with
  | "reserve" =>
    let p ← reserve product (stepArg st "quantity") (stepArg st "max_attempts")
    return .obj [("stock_read", .int p.stock)]
  | "restore" =>
    match ← restore product (stepArg st "quantity") (stepArg st "max_attempts") with
    | some p => return .obj [("stock_read", .int p.stock)]
    | none => return .null
  | "available" => return .int (← available product)
  | "cas" => return .bool (← compareAndSwap product (stepArg st "expected_version")
      (stepArg st "new_stock"))
  | "cas_conflicts" =>
    planConflicts (← requiredArg st "product_id").display (← plannedOutcomes st)
    return .null
  | _ => fail .badValue

/-- The catalogue and setup steps. -/
def setupStep (op : String) (st : Json) : MarketM Json := do
  match op with
  | "settings" =>
    applySettings st
    return .null
  | "add_product" =>
    let p ← addProduct (stepFieldsExcept st ["op"])
    return .obj [("id", .str p.id)]
  | "update_product" =>
    updateProduct (← requiredArg st "id").display (stepFieldsExcept st ["op", "id", "version"])
    return .null
  | "delete_product" =>
    deleteProduct (← requiredArg st "id").display
    return .null
  | "product" => return productJson (← getProduct (← requiredArg st "id").display)
  | "add_coupon" =>
    let c ← addCoupon (stepFieldsExcept st ["op"])
    return .obj [("code", .str c.code)]
  | "coupon" =>
    match ← couponByCode (stepArg st "code") with
    | some c => return couponJson c
    | none => return .null
  | "check_coupon" =>
    let code := stepArg st "code"
    match ← couponByCode code with
    | none =>
      return evaluationJson (Coupon.Evaluation.refused ("Coupon " ++ code.display ++
        " does not exist"))
    | some c => return evaluationJson (← lift (c.evaluate (stepArg st "cart_total") (← now)))
  | "gateway_configure" =>
    let succeeds := flagArgOr st "should_succeed" true
    let reason := textArgOr st "failure_reason" "Gateway unavailable"
    modify fun m => { m with gateway := { m.gateway with succeeds, failureReason := reason } }
    return .null
  | _ => ledgerStep op st

/-- The cart steps. -/
def cartStep (op : String) (st : Json) : MarketM Json := do
  let given := commandGiven st cartLineFields
  match op with
  | "add_to_cart" =>
    Command.addToCart given
    return .null
  | "update_cart_item" =>
    Command.updateCartItem given
    return .null
  | "remove_from_cart" =>
    Command.removeFromCart given
    return .null
  | "clear_cart" => return .int (← Command.clearCart given)
  | "cart" => return cartJson (← cartView (stepArg st "customer_id"))
  | _ => setupStep op st

/-- The order steps. -/
def orderStep (op : String) (st : Json) : MarketM Json := do
  match op with
  | "place_order" =>
    let given := withJsonTexts (commandGiven st [("customer_id", "customer_id"),
      ("items", "items"), ("shipping_address", "shipping_address"),
      ("billing_address", "billing_address"), ("payment_method", "payment_method"),
      ("coupon_code", "coupon_code")]) ["items", "shipping_address", "billing_address"]
    return .str (← Command.placeOrder given).id
  | "checkout_cart" =>
    let given := withJsonTexts (commandGiven st [("customer_id", "customer_id"),
      ("shipping_address", "shipping_address"), ("billing_address", "billing_address"),
      ("payment_method", "payment_method"), ("coupon_code", "coupon_code")])
      ["shipping_address", "billing_address"]
    return .str (← Command.checkoutCart given).id
  | "get_order" => return orderJson (← getOrder (stepArg st "order").display)
  | "cancel_order" =>
    let given := commandGiven st [("order", "order_id"), ("requester_id", "requester_id")]
    return .str (← Command.cancelOrder given).name
  | "update_status" =>
    let given := commandGiven st [("order", "order_id"), ("new_status", "new_status"),
      ("actor_id", "actor_id"), ("actor_role", "actor_role")]
    return .str (← Command.updateOrderStatus given).name
  | "add_tracking" =>
    let given := commandGiven st [("order", "order_id"), ("tracking_number", "tracking_number"),
      ("actor_id", "actor_id"), ("actor_role", "actor_role")]
    return .str (← Command.addTrackingNumber given).name
  | "list_customer_orders" =>
    let status ← optionalStatus (stepArg st "status")
    let offset := (st.field? "offset").getD (.int 0)
    let limit := (st.field? "limit").getD (.int 10)
    return pageJson (← customerOrders (stepArg st "customer_id") status offset limit)
  | "list_managed_orders" =>
    let role ← roleOf (stepArg st "role")
    let status ← optionalStatus (stepArg st "status")
    let offset := (st.field? "offset").getD (.int 0)
    let limit := (st.field? "limit").getD (.int 20)
    return pageJson (← managedOrders (stepArg st "actor_id") role status
      (stepArg st "customer_id") offset limit)
  | _ => cartStep op st

/-- The payment and notification steps. -/
def paymentStep (op : String) (st : Json) : MarketM Json := do
  match op with
  | "create_session" =>
    let s ← createSession (stepArg st "order").display (stepArg st "requester_id").display
      (stepArg st "success_url") (stepArg st "cancel_url")
    return .obj [("session_id", .str s.sessionId), ("checkout_url", .str s.checkoutUrl)]
  | "gateway_calls" => return .arr ((← get).gateway.calls.map gatewayCallJson)
  | "webhook" =>
    let body ← lift (requestBody st)
    let m ← get
    let h ← lift (signatureHeader (stepArg st "signature") body m.settings.webhookSecret m.clock)
    let r ← receiveWebhook body h
    return .obj [("status", .str r.status), ("event_type", .str r.eventType),
      ("order_id", (r.orderId.map Json.str).getD .null)]
  | "payments" =>
    let order := (stepArg st "order").display
    return .arr (((← records).payments.filter (·.orderId == order)).map paymentJson)
  | "notifications" =>
    let (sent, _) ← recorded
    let shown : List Notice := match st.field? "user_id" with
      | some v => sent.filter fun (n : Notice) => n.userId == v.display
      | none => sent
    return .arr (shown.map fun (n : Notice) =>
      .obj [("user_id", .str n.userId), ("message", .str n.message), ("link", linkJson n.link),
        ("notification_type", .str n.kind)])
  | "notifier_reset" =>
    let _ ← recorded
    modify fun m => { m with notifier := .recording [] true }
    return .null
  | "notifier_configure" =>
    let (sent, _) ← recorded
    let succeeds := flagArgOr st "should_succeed" true
    modify fun m => { m with notifier := .recording sent succeeds }
    return .null
  | "use_in_app_notifier" =>
    modify fun m => { m with notifier := .inbox }
    return .null
  | "inbox" =>
    let rows ← inboxOf (stepArg st "user_id")
    return .arr (rows.map fun n =>
      .obj [("message", .str n.message), ("link", linkJson n.link),
        ("notification_type", .str n.kind), ("is_read", .bool n.isRead)])
  | "http" => httpStep st
  | "mark_read" =>
    markRead (stepArg st "user_id") (← wholeArg st "index" 0)
    return .null
  | _ => orderStep op st

/-- Runs one step; answers its result. A step must be an object that names its operation. -/
def runStep (st : Json) : MarketM Json :=
  match st with
  | .obj _ =>
    match st.field? "op" with
    | some (.str op) => paymentStep op st
    | some _ => fail .badValue
    | none => fail .missingKey
  | _ => fail .wrongType

/-- Runs the steps in turn; answers each one's result or fault with the stock after it. Before a
step runs, the aliases of the orders and sessions that exist are resolved in it. -/
def runScenarioSteps : List Json → Market → List Json × Market
  | [], m => ([], m)
  | st :: rest, m =>
    let st := resolveValue m.store.orders.length m.sessionsIssued st
    let (r, m') := Market.run (runStep st) m
    let members := match r with
      | .ok v => [("result", v)]
      | .error f => f.members
    let (answers, final) := runScenarioSteps rest m'
    (.obj (members ++ [("stock", stockJson m')]) :: answers, final)

/-- The steps of a scenario: a list as given, the characters of a text, or the keys of an object;
a scenario without steps has none. -/
def scenarioSteps (req : Json) : Except Fault (List Json) :=
  match req.field? "steps" with
  | none => .ok []
  | some (.arr steps) => .ok steps
  | some (.str s) => .ok (s.toList.map fun c => .str (String.singleton c))
  | some (.obj fields) => .ok (fields.map fun kv => .str kv.1)
  | some _ => .error .wrongType

/-- Answers a scenario request, with the aliases of the identifiers it generated. -/
def scenarioAnswer (req : Json) : Json :=
  match scenarioSteps req with
  | .ok steps =>
    let (answers, final) := runScenarioSteps steps {}
    withAliases final.sessionsIssued (.obj [("steps", .arr answers)])
  | .error f => f.toJson

end Service

end Bazaar
