import Bazaar.Order.Address
import Bazaar.Order.Event

/-!
# Orders

An order is placed once per checkout. Its lines, amounts and addresses are fixed then; afterwards
only its statuses, tracking number, checkout session and the mark that its stock was given back
change.

Placing computes the amounts through exact decimals rounded to cents: the total is the sum of the
lines' totals, the discount and the shipping fee are rounded as given, and the final amount is
`total - discount + fee`, but never below zero. An order keeps two rules: its discount never
exceeds its total, and its final amount is within a cent of `total - discount + fee`. The sellers
of an order are kept as one text `|a|b|`, sorted, so that orders can be found by seller.
-/

namespace Bazaar

/-- An order with its lines, amounts, addresses and statuses. -/
structure Order where
  id : String
  customerId : String
  status : OrderStatus
  paymentStatus : PaymentStatus
  paymentMethod : String
  items : List OrderItem
  shipping : Address
  billing : Address
  total : Float
  discount : Float
  shippingFee : Float
  final : Float
  currency : String
  couponId : Option String
  couponCode : Option String
  trackingNumber : Option String
  checkoutSessionId : Option String
  stockRestored : Bool
  sellerRefs : String

/-- What a checkout gives to place an order. Each part is a value as given, and checked when the
order is placed. -/
structure Placement where
  customerId : Json
  items : Json
  shippingAddress : Json
  billingAddress : Json := .null
  paymentMethod : Json := .str "CARD"
  shippingFee : Json := .float 0.0
  currency : Json := .str "usd"
  discountAmount : Json := .float 0.0
  couponId : Json := .null
  couponCode : Json := .null

namespace Order

/-- Inserts a text into a sorted list of texts, keeping it sorted and without repeats. -/
def insertSorted (s : String) : List String → List String
  | [] => [s]
  | t :: rest =>
    if s == t then t :: rest
    else if s < t then s :: t :: rest
    else t :: insertSorted s rest

/-- The sellers of some lines as one text: `|` and then each seller, sorted, followed by `|`. -/
def sellerRefsOf (items : List OrderItem) : String :=
  let sellers := items.foldl (fun acc i =>
    match i.sellerId with
    | some s => if s.isEmpty then acc else insertSorted s acc
    | none => acc) []
  "|" ++ String.join (sellers.map (· ++ "|"))

/-- The sellers of an order. -/
def sellers (o : Order) : List String :=
  o.items.foldl (fun acc i =>
    match i.sellerId with
    | some s => if s.isEmpty then acc else insertSorted s acc
    | none => acc) []

/-- The snapshots of an order's lines. -/
def itemSnapshots (o : Order) : List Json :=
  o.items.map OrderItem.snapshot

/-- The rules every order keeps. -/
def rules (o : Order) : Except Fault Messages := do
  let discountRule : Messages :=
    if o.discount > o.total then
      Messages.single "discount_amount" "Discount cannot exceed the order total" else []
  let components ← Money.arith (Decimal.add .standard
    (← Money.arith (Decimal.sub .standard (← Money.decimalOfFloat o.total)
      (← Money.decimalOfFloat o.discount)))
    (← Money.decimalOfFloat o.shippingFee))
  let expected := if Decimal.compareValue Decimal.zero components == .gt then Decimal.zero
    else components
  let gap ← Money.arith (Decimal.sub .standard (← Money.decimalOfFloat o.final) expected)
  let cent := Decimal.finite false 1 (-2)
  let absGap := match gap with
    | .finite _ c e => Decimal.finite false c e
    | d => d
  let finalRule : Messages :=
    if Decimal.compareValue absGap cent == .gt then
      Messages.single "final_amount" "Final amount must equal total - discount + shipping" else []
  return discountRule.merge finalRule

/-- The lines of a purchase; no lines, or a value that is false, is refused. -/
def linesOf (items : Json) : Except Fault (List OrderItem) :=
  if !items.truthy then .error (.field "items" "An order needs at least one item")
  else
    match items with
    | .arr ds => ds.mapM OrderItem.ofPurchase
    | .obj fs => fs.mapM (fun _ => .error .missingAttribute)
    | .str s => s.toList.mapM (fun _ => .error .missingAttribute)
    | _ => .error .wrongType

/-- An amount rounded to cents, a false value counting as zero. -/
def roundedOrZero (v : Json) : Except Fault Float :=
  Money.round (if v.truthy then v else .float 0.0)

/-- Places an order under the identifier `id`: computes its lines and amounts, reads its addresses
(the billing address defaults to the shipping address), checks its fields and rules, and raises
the event that it was placed. -/
def place (id : String) (p : Placement) : Except Fault (Order × OrderEvent) := do
  let items ← linesOf p.items
  let mut sum := Decimal.zero
  for i in items do
    sum ← Money.arith (Decimal.add .standard sum (← Money.decimalOfFloat i.total))
  let total ← Money.roundDecimal sum
  let discount ← roundedOrZero p.discountAmount
  let fee ← roundedOrZero p.shippingFee
  let components ← Money.arith (Decimal.add .standard
    (← Money.arith (Decimal.sub .standard (← Money.decimalOfFloat total)
      (← Money.decimalOfFloat discount)))
    (← Money.decimalOfFloat fee))
  let final ← if Decimal.compareValue Decimal.zero components == .gt then
      Money.roundDecimal Decimal.zero
    else Money.roundDecimal components
  let shipping ← Address.ofJson p.shippingAddress
  let billing ← Address.ofJson (if p.billingAddress.truthy then p.billingAddress
    else p.shippingAddress)
  let refs := sellerRefsOf items
  let given : Field.Given :=
    [("customer_id", p.customerId), ("payment_method", p.paymentMethod),
      ("total_amount", .float total), ("discount_amount", .float discount),
      ("shipping_fee", .float fee), ("final_amount", .float final), ("currency", p.currency),
      ("coupon_id", p.couponId), ("coupon_code", p.couponCode), ("seller_refs", .str refs)]
  let order ← ((fun c pm t d f fin cur cid code r =>
      Order.mk id c .pendingPayment .pending pm items shipping billing t d f fin cur cid code
        none none false r)
    <$> Field.required given "customer_id" (Field.identifier 1)
    <*> Field.required given "payment_method" (Field.text 0 (some 50))
    <*> Field.required given "total_amount" (Field.number (some 0))
    <*> Field.required given "discount_amount" (Field.number (some 0))
    <*> Field.required given "shipping_fee" (Field.number (some 0))
    <*> Field.required given "final_amount" (Field.number (some 0))
    <*> Field.required given "currency" (Field.text 0 (some 3))
    <*> Field.optional given "coupon_id" (Field.identifier 0)
    <*> Field.optional given "coupon_code" (Field.text 0 (some 50))
    <*> Field.required given "seller_refs" (Field.text 0 (some 2000))).toExcept
  match ← order.rules with
  | [] => pure ()
  | ms => throw (.invalid ms)
  let event ← (OrderEvent.placedChecked id p.customerId.display (order.itemSnapshots)
    total discount fee final order.currency order.couponCode).toExcept
  return (order, event)

end Order

end Bazaar
