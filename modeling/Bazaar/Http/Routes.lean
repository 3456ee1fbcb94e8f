import Bazaar.Http.Form
import Bazaar.Http.Request
import Bazaar.Json.Document
import Bazaar.Market.Command

/-!
# The web interface

The marketplace answers HTTP requests for carts, orders, payments and coupons. The caller names
themselves in the `X-User-Id` header, and staff their role in `X-User-Role`.

A request is routed by its path and method, routes tried in the order they are declared: a path
that some route has but not for the method is refused as a method not allowed, and a path that no
route has is tried once more with its trailing slash added or removed before it is not found.
A route that takes a body reads it first, as a JSON document when its content type is JSON or
not given; a JSON text that breaks the grammar is answered alone, with status 422. Then the
handler's parameters (path, then query, then headers, then body) are read against their declared
shapes, and any problems are answered together with status 422. Handlers run the
marketplace's commands and queries; their faults are answered by kind: rule violations with 400 and
the messages per field, missing records with 404, forbidden actions with 403, stock conflicts with
409, gateway failures with 502, refused webhooks with 400, and anything else as a server error.
An answer that holds a double that is not finite cannot be written and is refused with 400.
-/

namespace Bazaar

namespace Http

open Market

/-- A response: a status code and a body, a text body held as a JSON string. -/
structure Response where
  status : Nat
  body : Json

namespace Response

/-- A response whose body is `{"error": value}`. -/
def error (status : Nat) (value : Json) : Response :=
  ⟨status, .obj [("error", value)]⟩

/-- The response to a fault raised by a handler. -/
def ofFault (f : Fault) : Response :=
  match f with
  | .invalid ms | .insufficientStock ms => error 400 (Fault.messagesJson ms)
  | .notFound m => error 404 (.str m)
  | .forbidden m => error 403 (.str m)
  | .stockConflict m => error 409 (.str m)
  | .paymentSession m => error 502 (.str m)
  | .webhookSignature m | .webhookPayload m => error 400 (.str m)
  | _ => ⟨500, .str "Internal Server Error"⟩

/-- The response listing the problems found in a request's parameters. -/
def ofProblems (ps : List Problem) : Response :=
  ⟨422, .obj [("detail", .arr (ps.map Problem.toJson))]⟩

/-- A response with a status and the members of an object. -/
def ok (status : Nat) (members : List (String × Json)) : Response :=
  ⟨status, .obj members⟩

end Response

/-- What a request asks for, with the values its path carries. -/
inductive Endpoint where
  | cart
  | addCartItem
  | updateCartItem (productId : String)
  | removeCartItem (productId : String)
  | clearCart
  | placeOrder
  | checkout
  | myOrders
  | managedOrders
  | order (orderId : String)
  | cancelOrder (orderId : String)
  | setStatus (orderId : String)
  | setTracking (orderId : String)
  | checkoutSession
  | webhook
  | couponValidation (code : String)
  | health

/-- A route: a method and the paths it takes, as the parts between slashes. -/
structure Route where
  method : String
  take : List String → Option Endpoint

/-- A path part that names a value: any part but an empty one. -/
def named (part : String) (e : String → Endpoint) : Option Endpoint :=
  if part.isEmpty then none else some (e part)

/-- The routes, in the order they are tried. -/
def routes : List Route := [
  ⟨"GET", fun | ["cart"] => some .cart | _ => none⟩,
  ⟨"POST", fun | ["cart", "items"] => some .addCartItem | _ => none⟩,
  ⟨"PUT", fun | ["cart", "items", p] => named p .updateCartItem | _ => none⟩,
  ⟨"DELETE", fun | ["cart", "items", p] => named p .removeCartItem | _ => none⟩,
  ⟨"DELETE", fun | ["cart"] => some .clearCart | _ => none⟩,
  ⟨"POST", fun | ["orders"] => some .placeOrder | _ => none⟩,
  ⟨"POST", fun | ["orders", "checkout"] => some .checkout | _ => none⟩,
  ⟨"GET", fun | ["orders"] => some .myOrders | _ => none⟩,
  ⟨"GET", fun | ["orders", "managed"] => some .managedOrders | _ => none⟩,
  ⟨"GET", fun | ["orders", o] => named o .order | _ => none⟩,
  ⟨"POST", fun | ["orders", o, "cancel"] => named o .cancelOrder | _ => none⟩,
  ⟨"PUT", fun | ["orders", o, "status"] => named o .setStatus | _ => none⟩,
  ⟨"PUT", fun | ["orders", o, "tracking"] => named o .setTracking | _ => none⟩,
  ⟨"POST", fun | ["payments", "checkout-session"] => some .checkoutSession | _ => none⟩,
  ⟨"POST", fun | ["payments", "webhook"] => some .webhook | _ => none⟩,
  ⟨"GET", fun | ["coupons", c, "validation"] => named c .couponValidation | _ => none⟩,
  ⟨"GET", fun | ["health"] => some .health | _ => none⟩]

/-- How a path and method are routed. -/
inductive Routing where
  | found (e : Endpoint)
  | wrongMethod
  | unknown

/-- Whether an endpoint reads a body. -/
def Endpoint.takesBody : Endpoint → Bool
  | .addCartItem | .updateCartItem _ | .placeOrder | .checkout | .setStatus _ | .setTracking _
  | .checkoutSession => true
  | _ => false

/-- The parts between slashes of a path. -/
def pathParts (path : String) : List String :=
  match Text.splitOn '/' path with
  | "" :: rest => rest
  | parts => parts

/-- Routes a path and method: the first route that takes both, else whether a route takes the
path. -/
def resolve (method path : String) : Routing :=
  let parts := pathParts path
  match routes.findSome? (fun r => if r.method == method then r.take parts else none) with
  | some e => .found e
  | none => if routes.any (fun r => (r.take parts).isSome) then .wrongMethod else .unknown

/-- The same path with its trailing slash removed, or one added. -/
def otherSlash (path : String) : String :=
  if path.endsWith "/" then String.ofList (path.toList.reverse.dropWhile (· == '/')).reverse
  else path ++ "/"

/-- A header that must be given. -/
def header (r : Request) (name : String) : Checked String :=
  match r.header? name with
  | some v => .ok v
  | none => .failed [Problem.missing [.str "header", .str name] .null]

/-- A header with a default. -/
def headerOr (r : Request) (name fallback : String) : Checked String :=
  .ok ((r.header? name).getD fallback)

/-- A query parameter with a default, read by `f`. -/
def paramOr {α : Type} (r : Request) (name : String) (fallback : α) (f : Form α) : Checked α :=
  match r.param? name with
  | some v => f [.str "query", .str name] (.str v)
  | none => .ok fallback

/-- A query parameter that must be given, read by `f`. -/
def param {α : Type} (r : Request) (name : String) (f : Form α) : Checked α :=
  match r.param? name with
  | some v => f [.str "query", .str name] (.str v)
  | none => .failed [Problem.missing [.str "query", .str name] .null]

/-- A text that is present. -/
def presentText : Form (Option String) := fun loc v =>
  (Form.text loc v).map some

/-- The body read by `f`: a JSON body as its value, a body of another type as its text. -/
def body {α : Type} (r : Request) (f : Form α) : Checked α :=
  match r.body with
  | .empty => .failed [Problem.missing [.str "body"] .null]
  | .json v => f [.str "body"] v
  | .raw bytes => f [.str "body"] (.str ((Text.utf8Text? bytes).getD ""))

/-- The problem of a JSON body whose text breaks the grammar, at a place counted in characters. -/
def jsonInvalid (position : Nat) (flaw : Json.Flaw) : Problem :=
  ⟨"json_invalid", [.str "body", .int position], "JSON decode error", .obj [],
    [("error", .str flaw.message)]⟩

/-- The answer to a body that cannot be read at all. -/
def unreadableBody : Response :=
  ⟨400, .obj [("detail", .str "There was an error parsing the body")]⟩

/-- The body as a route that takes one reads it, before any parameter. An empty body is none. A
body whose content type is missing, empty or JSON is a JSON document; one of another type stays
as its bytes, a JSON body among them. A JSON text that breaks the grammar is answered with the flaw
and its place alone, and bytes that are no text, or a document nested too deeply or with too long
an integer, as a body that cannot be read. -/
def readBody (r : Request) : Except Response Request :=
  let typedJson := match r.header? "content-type" with
    | none => true
    | some v => v.isEmpty || isJsonContentType v
  match r.body with
  | .raw [] => .ok { r with body := .empty }
  | .raw bytes =>
    if !typedJson then .ok r
    else
      match Json.parseBytes bytes with
      | .ok v => .ok { r with body := .json v }
      | .error (.malformed position (.grammar flaw)) =>
        .error (Response.ofProblems [jsonInvalid position flaw])
      | .error _ => .error unreadableBody
  | .json v =>
    if typedJson then .ok r else .ok { r with body := .raw (Text.utf8Bytes (Json.compactText v)) }
  | .empty => .ok r

/-- Whether a body of another type than JSON cannot be shown as text. -/
def undecodableBody (r : Request) : Bool :=
  match r.body with
  | .raw bytes => (Text.utf8Text? bytes).isNone
  | _ => false

/-- Runs a handler on parameters that were read, or answers their problems. A problem with a
body that cannot be shown as text cannot be answered, and is a server error. -/
def withParams {α : Type} (r : Request) (c : Checked α) (k : α → MarketM Response) :
    MarketM Response :=
  match c with
  | .ok a => k a
  | .failed ps =>
    if undecodableBody r && ps.any (fun p => match p.loc with
        | .str "body" :: _ => true
        | _ => false) then
      pure ⟨500, .str "Internal Server Error"⟩
    else pure (Response.ofProblems ps)

/-- An address as a body gives it: its members in their declared order. -/
def addressForm : Form Json :=
  Form.object fun fs whole loc =>
    let opt (v : Option String) : Json := (v.map Json.str).getD .null
    (fun t s c st z co p => Json.obj [("address_title", opt t), ("street", .str s),
        ("city", .str c), ("state", opt st), ("zip_code", .str z), ("country", .str co),
        ("phone_number", opt p)])
      <$> Form.memberOr fs loc "address_title" none (Form.orNull Form.text)
      <*> Form.member fs whole loc "street" Form.text
      <*> Form.member fs whole loc "city" Form.text
      <*> Form.memberOr fs loc "state" none (Form.orNull Form.text)
      <*> Form.member fs whole loc "zip_code" Form.text
      <*> Form.member fs whole loc "country" Form.text
      <*> Form.memberOr fs loc "phone_number" none (Form.orNull Form.text)

/-- An order line as a body gives it. -/
def lineForm : Form Json :=
  Form.object fun fs whole loc =>
    (fun p q => Json.obj [("product_id", .str p), ("quantity", .int q)])
      <$> Form.member fs whole loc "product_id" Form.text
      <*> Form.member fs whole loc "quantity" (Form.wholeNumber (some 1) none)

/-- What a checkout body gives: addresses, payment method and coupon code. -/
structure CheckoutForm where
  shipping : Json
  billing : Option Json
  paymentMethod : String
  couponCode : Option String

/-- The checkout members of a body. -/
def checkoutMembers (fs : List (String × Json)) (whole : Json) (loc : List Json) :
    Checked CheckoutForm :=
  CheckoutForm.mk
    <$> Form.member fs whole loc "shipping_address" addressForm
    <*> Form.memberOr fs loc "billing_address" none (Form.orNull addressForm)
    <*> Form.memberOr fs loc "payment_method" "CARD" Form.text
    <*> Form.memberOr fs loc "coupon_code" none (Form.orNull Form.text)

/-- The command fields of a checkout by a customer. -/
def checkoutGiven (user : String) (c : CheckoutForm) : Field.Given :=
  [("customer_id", .str user), ("shipping_address", .str (Json.standardText c.shipping)),
    ("billing_address", (c.billing.map fun b => Json.str (Json.standardText b)).getD .null),
    ("payment_method", .str c.paymentMethod),
    ("coupon_code", (c.couponCode.map Json.str).getD .null)]

/-- The role named by a header, in any case; an unknown one is refused. -/
def roleOf (value : String) : MarketM ActorRole :=
  match ActorRole.ofName? (Text.toUpper value) with
  | some r => pure r
  | none => fail (.field "role" ("Unknown role " ++ value))

/-- The status named by a parameter, in any case; an unknown one is refused. -/
def statusOf (value : String) : MarketM OrderStatus :=
  match OrderStatus.ofName? (Text.toUpper value) with
  | some s => pure s
  | none => fail (.field "status" ("Unknown order status " ++ value))

/-- The status filter of a listing: none for a missing or empty parameter. -/
def statusFilter (value : Option String) : MarketM (Option OrderStatus) :=
  match value with
  | some v => if v.isEmpty then pure none else some <$> statusOf v
  | none => pure none

/-- An optional text as JSON. -/
def optionalText (o : Option String) : Json :=
  (o.map Json.str).getD .null

/-- A reference that is shown only when it is not empty. -/
def reference (o : Option String) : Json :=
  match o with
  | some s => if s.isEmpty then .null else .str s
  | none => .null

/-- An order as the interface shows it. -/
def orderBody (o : Order) : Json :=
  .obj [("order_id", .str o.id), ("customer_id", .str o.customerId),
    ("status", .str o.status.name), ("payment_status", .str o.paymentStatus.name),
    ("payment_method", .str o.paymentMethod),
    ("items", .arr (o.items.map fun i =>
      .obj [("product_id", reference i.productId), ("product_name", .str i.productName),
        ("seller_id", reference i.sellerId), ("quantity", .int i.quantity),
        ("price_at_purchase", .float i.price), ("item_total", .float i.total)])),
    ("shipping_address", o.shipping.toJson), ("billing_address", o.billing.toJson),
    ("total_amount", .float o.total), ("discount_amount", .float o.discount),
    ("shipping_fee", .float o.shippingFee), ("final_amount", .float o.final),
    ("currency", .str o.currency), ("coupon_code", optionalText o.couponCode),
    ("tracking_number", optionalText o.trackingNumber)]

/-- A page of orders as the interface shows it. -/
def pageBody (p : OrderPage) : Json :=
  .obj [("items", .arr (p.orders.map orderBody)), ("total", .int p.total),
    ("offset", p.offset), ("limit", p.limit)]

/-- A cart as the interface shows it. -/
def cartBody (v : CartView) : Json :=
  .obj [("cart_id", .str v.cartId), ("customer_id", .str v.customerId),
    ("items", .arr (v.lines.map fun l =>
      .obj [("product_id", .str l.productId), ("product_name", .str l.productName),
        ("quantity", .int l.quantity), ("unit_price", .float l.unitPrice),
        ("line_total", .float l.lineTotal), ("available", .bool l.available)])),
    ("item_count", .int v.itemCount), ("subtotal", .float v.subtotal)]

/-- The answer that a change went through, with a status. -/
def statusBody (status : String) : List (String × Json) :=
  [("status", .str status)]

/-- The bounds of a page: an offset from zero and a limit from one to a hundred. -/
def pageBounds (r : Request) (limit : Int) : Checked (Int × Int) :=
  (fun o l => (o, l))
    <$> paramOr r "offset" 0 (Form.wholeNumber (some 0) none)
    <*> paramOr r "limit" limit (Form.wholeNumber (some 1) (some 100))

/-- The raw bytes of a body, as the gateway posts them. -/
def bodyBytes (r : Request) : List UInt8 :=
  match r.body with
  | .empty => []
  | .json v => Text.utf8Bytes (Json.compactText v)
  | .raw bytes => bytes

/-- Handles a request for an endpoint. -/
def handle (r : Request) : Endpoint → MarketM Response
  | .cart => withParams r (header r "x-user-id") fun user => do
    return ⟨200, cartBody (← cartView (.str user))⟩
  | .addCartItem =>
    let form := Form.object fun fs whole loc =>
      (fun p q => (p, q))
        <$> Form.member fs whole loc "product_id" Form.text
        <*> Form.memberOr fs loc "quantity" 1 (Form.wholeNumber (some 1) none)
    withParams r ((fun u b => (u, b)) <$> header r "x-user-id" <*> body r form)
      fun (user, product, quantity) => do
        Command.addToCart [("customer_id", .str user), ("product_id", .str product),
          ("quantity", .int quantity)]
        return .ok 201 (statusBody "ok")
  | .updateCartItem product =>
    let form := Form.object fun fs whole loc =>
      Form.member fs whole loc "quantity" (Form.wholeNumber (some 1) none)
    withParams r ((fun u q => (u, q)) <$> header r "x-user-id" <*> body r form)
      fun (user, quantity) => do
        Command.updateCartItem [("customer_id", .str user), ("product_id", .str product),
          ("quantity", .int quantity)]
        return .ok 200 (statusBody "ok")
  | .removeCartItem product => withParams r (header r "x-user-id") fun user => do
    Command.removeFromCart [("customer_id", .str user), ("product_id", .str product)]
    return .ok 200 (statusBody "ok")
  | .clearCart => withParams r (header r "x-user-id") fun user => do
    let removed ← Command.clearCart [("customer_id", .str user)]
    return .ok 200 [("removed", .int removed)]
  | .placeOrder =>
    let form := Form.object fun fs whole loc =>
      (fun ls c => (ls, c))
        <$> Form.member fs whole loc "items" (Form.list lineForm 1)
        <*> checkoutMembers fs whole loc
    withParams r ((fun u b => (u, b)) <$> header r "x-user-id" <*> body r form)
      fun (user, lines, c) => do
        let o ← Command.placeOrder
          (("items", .str (Json.standardText (.arr lines))) :: checkoutGiven user c)
        return .ok 201 [("order_id", .str o.id)]
  | .checkout =>
    withParams r ((fun u b => (u, b)) <$> header r "x-user-id" <*>
        body r (Form.object checkoutMembers))
      fun (user, c) => do
        let o ← Command.checkoutCart (checkoutGiven user c)
        return .ok 201 [("order_id", .str o.id)]
  | .myOrders =>
    withParams r ((fun s b u => (s, b, u))
        <$> paramOr r "status" none presentText
        <*> pageBounds r 10 <*> header r "x-user-id")
      fun (status, (offset, limit), user) => do
        let s ← statusFilter status
        return ⟨200, pageBody (← customerOrders (.str user) s (.int offset) (.int limit))⟩
  | .managedOrders =>
    withParams r ((fun s c b u role => (s, c, b, u, role))
        <$> paramOr r "status" none presentText
        <*> paramOr r "customer_id" none presentText
        <*> pageBounds r 20 <*> header r "x-user-id" <*> header r "x-user-role")
      fun (status, customer, (offset, limit), user, roleName) => do
        let role ← roleOf roleName
        let s ← statusFilter status
        let page ← Market.managedOrders (.str user) role s (optionalText customer) (.int offset)
          (.int limit)
        return ⟨200, pageBody page⟩
  | .order orderId =>
    withParams r ((fun u role => (u, role)) <$> header r "x-user-id" <*>
        headerOr r "x-user-role" "CUSTOMER")
      fun (user, roleName) => do
        let o ← getOrder orderId
        let role ← roleOf roleName
        if role == .customer then ensureOwner o user else ensureStaffCanManage o user role
        return ⟨200, orderBody o⟩
  | .cancelOrder orderId => withParams r (header r "x-user-id") fun user => do
    let s ← Command.cancelOrder [("order_id", .str orderId), ("requester_id", .str user)]
    return .ok 200 (statusBody s.name)
  | .setStatus orderId =>
    let form := Form.object fun fs whole loc => Form.member fs whole loc "status" Form.text
    withParams r ((fun u role b => (u, role, b)) <$> header r "x-user-id" <*>
        header r "x-user-role" <*> body r form)
      fun (user, roleName, status) => do
        let target ← statusOf status
        let role ← roleOf roleName
        let s ← Command.updateOrderStatus [("order_id", .str orderId),
          ("new_status", .str target.name), ("actor_id", .str user),
          ("actor_role", .str role.name)]
        return .ok 200 (statusBody s.name)
  | .setTracking orderId =>
    let form := Form.object fun fs whole loc =>
      Form.member fs whole loc "tracking_number" (Form.boundedText 1 100)
    withParams r ((fun u role b => (u, role, b)) <$> header r "x-user-id" <*>
        header r "x-user-role" <*> body r form)
      fun (user, roleName, tracking) => do
        let role ← roleOf roleName
        let s ← Command.addTrackingNumber [("order_id", .str orderId),
          ("tracking_number", .str tracking), ("actor_id", .str user),
          ("actor_role", .str role.name)]
        return .ok 200 (statusBody s.name)
  | .checkoutSession =>
    let form := Form.object fun fs whole loc =>
      (fun o s c => (o, s, c))
        <$> Form.member fs whole loc "order_id" Form.text
        <*> Form.memberOr fs loc "success_url" none (Form.orNull Form.text)
        <*> Form.memberOr fs loc "cancel_url" none (Form.orNull Form.text)
    withParams r ((fun u b => (u, b)) <$> header r "x-user-id" <*> body r form)
      fun (user, orderId, success, cancel) => do
        let s ← createSession orderId user (optionalText success) (optionalText cancel)
        return .ok 201 [("session_id", .str s.sessionId), ("checkout_url", .str s.checkoutUrl)]
  | .webhook => withParams r (headerOr r "stripe-signature" "") fun signature => do
    let receipt ← receiveWebhook (bodyBytes r) signature
    return .ok 200 (statusBody receipt.status)
  | .couponValidation code =>
    withParams r (param r "cart_total" (Form.realNumber (some 0))) fun total => do
      let e ← match ← findCoupon code with
        | some c => lift (c.evaluate (.float total) (← now))
        | none => pure (Coupon.Evaluation.refused ("Coupon " ++ code ++ " does not exist"))
      return .ok 200 [("code", .str (Text.toUpper code)), ("valid", .bool e.valid),
        ("reason", optionalText e.reason), ("discount", .float e.discount)]
  | .health => pure (.ok 200 [("status", .str "ok"), ("domain", .obj [("name", .str "marketplace")])])

/-- The answer to a routed request: a route that takes a body reads it first; faults of the
handler are answered by kind; an answer holding a double that is not finite cannot be written as
JSON and is refused as a bad value. -/
def answerRouted (r : Request) : Routing → MarketM Response
  | .found e =>
    match (if e.takesBody then readBody r else .ok r) with
    | .error res => pure res
    | .ok r => do
      let res ← tryCatch (handle r e) fun f => pure (Response.ofFault f)
      if res.body.allFinite then pure res
      else pure (Response.error 400 (.str "Out of range float values are not JSON compliant"))
  | .wrongMethod => pure ⟨405, .obj [("detail", .str "Method Not Allowed")]⟩
  | .unknown => pure ⟨404, .obj [("detail", .str "Not Found")]⟩

/-- Routes a request and answers it. A path no route takes is tried with its trailing slash
toggled, as a client following the redirect would. -/
def route (r : Request) : MarketM Response :=
  match resolve r.method r.path with
  | .unknown =>
    if r.path == "/" then answerRouted r .unknown
    else
      let other := otherSlash r.path
      match resolve r.method other with
      | .unknown => answerRouted r .unknown
      | routing => answerRouted { r with path := other } routing
  | routing => answerRouted r routing

/-- The methods a cross-origin preflight request may ask for: all of them. -/
def preflightMethods : List String := ["DELETE", "GET", "HEAD", "OPTIONS", "PATCH", "POST", "PUT"]

/-- Serves a request. Any origin may call the interface, so a preflight request (an `OPTIONS`
request naming its origin and the method it asks for) is answered at once: `OK` for a method of
`preflightMethods`, written in capitals, and a refusal of the method otherwise. Every other
request is routed. -/
def serve (r : Request) : MarketM Response :=
  match r.header? "origin", r.header? "access-control-request-method" with
  | some _, some asked =>
    if r.method == "OPTIONS" then
      pure (if preflightMethods.contains asked then ⟨200, .str "OK"⟩
        else ⟨400, .str "Disallowed CORS method"⟩)
    else route r
  | _, _ => route r

end Http

end Bazaar
