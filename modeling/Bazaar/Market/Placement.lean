import Bazaar.Market.Cart
import Bazaar.Json.Document

/-!
# Placing orders

An order is placed for a list of lines in one unit of work. Repeated products are merged into one
line, in the order they first appear. Every line is checked before anything is written (the
product exists, is on sale and has the stock), and so is the coupon. Then stock is taken line by
line, the lines are priced from the products as taken, the coupon is evaluated against the total,
and the order is stored together with one more use of the coupon. If anything fails after stock
was taken, the stock taken so far is put back (in reverse order, ignoring failures) before the
failure is reported.

Checking out a cart places an order for the cart's lines; the cart itself is emptied only once the
payment is confirmed.
-/

namespace Bazaar

namespace Market

/-- The product of a line, as text. Lines must be objects with a product and a quantity. -/
def lineOf (line : Json) : MarketM (String × Int) := do
  let .obj fields := line | fail .wrongType
  let some product := Field.lookup fields "product_id" | fail .missingKey
  let some quantity := Field.lookup fields "quantity" | fail .missingKey
  let productId := product.display
  let q ← lift (Json.asInteger quantity)
  if q < 1 then
    fail (.field "quantity" ("Quantity for product " ++ productId ++ " must be at least 1"))
  return (productId, q)

/-- Adds a quantity to a product's merged line, or appends a new line. -/
def mergeInto (merged : List (String × Int)) (line : String × Int) : List (String × Int) :=
  if merged.any (·.1 == line.1) then
    merged.map fun (kv : String × Int) => if kv.1 == line.1 then (kv.1, kv.2 + line.2) else kv
  else merged ++ [line]

/-- The lines of a request merged by product, in the order products first appear. -/
def mergeLines (lines : Json) : MarketM (List (String × Int)) := do
  if !lines.truthy then fail (.field "items" "An order needs at least one item")
  let items ← match lines with
    | .arr xs => pure xs
    | .obj fs => pure (fs.map fun kv => Json.str kv.1)
    | .str s => pure (s.toList.map fun c => Json.str (String.ofList [c]))
    | _ => fail .wrongType
  let mut merged : List (String × Int) := []
  for line in items do
    merged := mergeInto merged (← lineOf line)
  return merged

/-- Puts back the stock taken for some lines, latest first, ignoring failures. -/
def release (reserved : List (String × Int)) : MarketM Unit := do
  for (productId, q) in reserved.reverse do
    tryCatch (do let _ ← restore productId (.int q); pure ()) fun _ => pure ()

/-- The data of an order line from the product as taken. -/
def purchaseOf (p : Product) (quantity : Int) : Json :=
  .obj [("product_id", .str p.id), ("product_name", .str p.name),
    ("seller_id", match p.sellerId with
      | some s => if s.isEmpty then .null else .str s
      | none => .null),
    ("quantity", .int quantity), ("price_at_purchase", .float p.price)]

/-- What a checkout gives besides its lines: the addresses as JSON texts, the billing one
optional. -/
structure Checkout where
  customerId : String
  shippingText : String
  billingText : Option String
  paymentMethod : String
  couponCode : Option String

/-- The value of a JSON text. An integer of too many digits is a bad value, and nesting too deep
a recursion too deep, rather than malformed JSON. -/
def readJsonText (s : String) : Except Fault Json :=
  match Json.parseText s with
  | .ok v => .ok v
  | .error ⟨_, .grammar _⟩ => .error .malformedJson
  | .error ⟨_, .longInteger⟩ => .error .badValue
  | .error ⟨_, .tooDeep inArray⟩ => .error (.recursion (Json.nestingMessage inArray))

/-- The shipping address and the billing address (`null` when none is given) of a checkout. -/
def Checkout.addresses (c : Checkout) : Except Fault (Json × Json) := do
  let shipping ← readJsonText c.shippingText
  let billing ← match c.billingText with
    | some b => if b.isEmpty then pure .null else readJsonText b
    | none => pure .null
  return (shipping, billing)

/-- Takes stock for each line in turn, after the lines in `done`; answers the products as read.
If a line cannot be taken, the stock already taken is put back before the failure is reported. -/
def reserveAll (done : List (String × Int)) : List (String × Int) → MarketM (List Product)
  | [] => pure []
  | (productId, q) :: rest => do
    let p ← tryCatch (reserve productId (.int q)) fun e => do
      release done
      throw e
    let ps ← reserveAll (done ++ [(productId, q)]) rest
    return p :: ps

/-- The order total: each line at its rounded price times its quantity, summed in decimals and
rounded to cents. -/
def totalOf (lines : List (Product × Int)) : MarketM Float := do
  let mut sum := Decimal.zero
  for (p, q) in lines do
    let price ← lift (Money.decimalOfFloat (← lift (Money.roundFloat p.price)))
    let line ← lift (Money.arith (Decimal.mul .standard price (Decimal.ofInt q)))
    sum ← lift (Money.arith (Decimal.add .standard sum line))
  lift (Money.roundDecimal sum)

/-- Prices the taken lines, applies the coupon and stores the order with one more use of the
coupon. -/
def settle (c : Checkout) (shipping billing : Json) (coupon : Option Coupon)
    (lines : List (Product × Int)) : MarketM Order := do
  let total ← totalOf lines
  let discount ← match coupon with
    | none => pure 0.0
    | some cp => do
      let e ← lift (cp.evaluate (.float total) (← now))
      if !e.valid then fail (.field "coupon_code" (e.reason.getD ""))
      pure e.discount
  let s ← currentSettings
  let id ← nextOrderId
  let placement : Placement := {
    customerId := .str c.customerId,
    items := .arr (lines.map fun (l : Product × Int) => purchaseOf l.1 l.2),
    shippingAddress := shipping, billingAddress := billing,
    paymentMethod := .str (if c.paymentMethod.isEmpty then "CARD" else c.paymentMethod),
    shippingFee := s.shippingFee, currency := s.currency,
    discountAmount := .float discount,
    couponId := (coupon.map fun cp => Json.str cp.id).getD .null,
    couponCode := (coupon.map fun cp => Json.str cp.code).getD .null }
  let (order, _) ← lift (Order.place id placement)
  if let some cp := coupon then
    putCoupon (← lift cp.incrementUsage)
  putOrder order
  return order

/-- The coupon a checkout names, if it names one; an unknown code is refused. -/
def couponNamed : Option String → MarketM (Option Coupon)
  | none => pure none
  | some code =>
    if code.isEmpty then pure none
    else do
      match ← findCoupon code with
      | some cp => pure (some cp)
      | none => fail (.field "coupon_code" ("Coupon " ++ code ++ " does not exist"))

/-- Places an order for some lines, to be shipped and billed to the given addresses. -/
def placeOrder (c : Checkout) (shipping billing : Json) (lines : Json) : MarketM Order := do
  let merged ← mergeLines lines
  for (productId, q) in merged do
    let p ← getProduct productId
    lift p.ensurePurchasable
    lift (p.ensureInStock q)
  let coupon ← couponNamed c.couponCode
  let taken ← reserveAll [] merged
  tryCatch (settle c shipping billing coupon (taken.zip (merged.map (·.2)))) fun e => do
    release merged
    throw e

/-- Places an order for the lines of the customer's cart; an empty cart is refused. -/
def checkoutCart (c : Checkout) : MarketM Order := do
  let some cart ← findCart c.customerId | fail (.field "cart" "Cart is empty")
  if cart.lines.isEmpty then fail (.field "cart" "Cart is empty")
  let (shipping, billing) ← lift c.addresses
  placeOrder c shipping billing (.arr (cart.lines.map fun l =>
    .obj [("product_id", .str l.productId), ("quantity", .int l.quantity)]))

end Market

end Bazaar
