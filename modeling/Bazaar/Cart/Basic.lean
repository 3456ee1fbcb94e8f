import Bazaar.Fault

/-!
# Carts

A customer has one cart, which records what they intend to buy: at most one line per product, each
with a quantity of at least one. A cart reserves nothing; stock is taken when an order is placed.
-/

namespace Bazaar

/-- A line of a cart: a product and how many of it. -/
structure CartLine where
  productId : String
  quantity : Int

/-- A customer's cart. -/
structure Cart where
  id : String
  customerId : String
  lines : List CartLine := []

namespace Cart

/-- The refusal of a quantity below one. -/
def quantityTooSmall : Fault :=
  .field "quantity" "Quantity must be at least 1"

/-- The refusal of a product that has no line in the cart. -/
def notInCart (productId : String) : Fault :=
  .notFound ("Product " ++ productId ++ " is not in the cart")

/-- The quantity of a product in the cart, zero without a line. -/
def quantityOf (c : Cart) (productId : String) : Int :=
  match c.lines.find? (·.productId == productId) with
  | some l => l.quantity
  | none => 0

/-- Whether the cart has a line for a product. -/
def holds (c : Cart) (productId : String) : Bool :=
  c.lines.any (·.productId == productId)

/-- Adds a quantity of a product, to its line if it has one. -/
def addItem (c : Cart) (productId : String) (quantity : Int) : Except Fault Cart :=
  if quantity < 1 then .error quantityTooSmall
  else if c.holds productId then
    .ok { c with lines := c.lines.map fun l =>
      if l.productId == productId then { l with quantity := l.quantity + quantity } else l }
  else .ok { c with lines := c.lines ++ [⟨productId, quantity⟩] }

/-- Sets the quantity of a product's line. -/
def updateQuantity (c : Cart) (productId : String) (quantity : Int) : Except Fault Cart :=
  if quantity < 1 then .error quantityTooSmall
  else if !c.holds productId then .error (notInCart productId)
  else .ok { c with lines := c.lines.map fun l =>
    if l.productId == productId then { l with quantity := quantity } else l }

/-- Removes a product's line. -/
def removeItem (c : Cart) (productId : String) : Except Fault Cart :=
  if !c.holds productId then .error (notInCart productId)
  else .ok { c with lines := c.lines.filter (·.productId != productId) }

/-- Empties the cart; answers how many lines it had. -/
def clear (c : Cart) : Cart × Nat :=
  ({ c with lines := [] }, c.lines.length)

end Cart

end Bazaar
