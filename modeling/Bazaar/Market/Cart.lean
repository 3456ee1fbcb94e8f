import Bazaar.Market.Ledger

/-!
# Cart commands and the cart view

Adding to a cart or changing a line's quantity checks that the product is on sale and that its
live stock covers the line's new quantity; removing a line and emptying the cart never look at the
catalogue. The cart view prices each line at the product's current price (in doubles, rounded to
cents) and tells whether it can be bought now; a line whose product is gone shows no name, no
price and is unavailable.
-/

namespace Bazaar

/-- A priced line of the cart view. -/
structure CartViewLine where
  productId : String
  productName : String
  quantity : Int
  unitPrice : Float
  lineTotal : Float
  available : Bool

/-- A customer's cart priced at current prices. -/
structure CartView where
  cartId : String
  customerId : String
  lines : List CartViewLine
  subtotal : Float

namespace CartView

/-- The number of units in the cart. -/
def itemCount (v : CartView) : Int :=
  v.lines.foldl (fun acc l => acc + l.quantity) 0

end CartView

namespace Market

/-- Checks that `quantity` units of a product could be bought now. -/
def ensureCanHold (productId : String) (quantity : Int) : MarketM Unit := do
  let p ← getProduct productId
  lift p.ensurePurchasable
  let stock ← available productId
  if quantity > stock then
    fail (Product.insufficient p.name (toString quantity) (toString stock))

/-- Adds a quantity of a product to the customer's cart. -/
def addToCart (customerId productId : String) (quantity : Int) : MarketM Unit := do
  let c ← cartFor (.str customerId)
  ensureCanHold productId (c.quantityOf productId + quantity)
  putCart (← lift (c.addItem productId quantity))

/-- Sets the quantity of a product in the customer's cart. -/
def updateCartItem (customerId productId : String) (quantity : Int) : MarketM Unit := do
  let c ← cartFor (.str customerId)
  let c' ← lift (c.updateQuantity productId quantity)
  ensureCanHold productId quantity
  putCart c'

/-- Removes a product from the customer's cart. -/
def removeFromCart (customerId productId : String) : MarketM Unit := do
  let c ← cartFor (.str customerId)
  putCart (← lift (c.removeItem productId))

/-- Empties the customer's cart; answers how many lines it had. -/
def clearCart (customerId : String) : MarketM Nat := do
  let c ← cartFor (.str customerId)
  let (c', removed) := c.clear
  putCart c'
  return removed

/-- The customer's cart priced at current prices, created on first use. -/
def cartView (customer : Json) : MarketM CartView := do
  let c ← cartFor customer
  let mut lines : List CartViewLine := []
  for l in c.lines do
    match ← findProduct l.productId with
    | none => lines := lines ++ [⟨l.productId, "", l.quantity, 0.0, 0.0, false⟩]
    | some p =>
      let total ← lift (Money.roundFloat (p.price * Float.ofInt l.quantity))
      lines := lines ++ [⟨p.id, p.name, l.quantity, p.price, total,
        p.isPurchasable && p.stock ≥ l.quantity⟩]
  let sum := lines.foldl (fun acc l => acc + l.lineTotal) 0.0
  let subtotal ← lift (Money.roundFloat sum)
  return ⟨c.id, c.customerId, lines, subtotal⟩

end Market

end Bazaar
