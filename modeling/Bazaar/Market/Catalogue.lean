import Bazaar.Market.State

/-!
# Keeping the catalogue

Products and coupons are added as new records: their fields are checked as the records require,
and a record whose identifier is already taken is refused, as is a coupon whose code is. A product
is changed field by field, each value checked as its field requires, and removed outright.
-/

namespace Bazaar

namespace Market

/-- The refusal of a record whose unique field repeats a stored one. -/
def alreadyPresent (kind field value : String) : Fault :=
  .field field (kind ++ " with " ++ field ++ " '" ++ value ++ "' is already present.")

/-- Adds a product from its fields; without an identifier it gets a fresh one. -/
def addProduct (given : Field.Given) : MarketM Product := do
  let fresh ← freshToken
  let p ← lift (Product.ofFields given fresh).toExcept
  if (← findProduct p.id).isSome then fail (alreadyPresent "Product" "id" p.id)
  putProduct p
  return p

/-- Changes the given fields of a stored product, one after the other. -/
def updateProduct (id : String) (changes : List (String × Json)) : MarketM Unit := do
  let mut p ← getProduct id
  for (field, v) in changes do
    p ← lift (p.assign field v)
  putProduct p

/-- Removes a stored product. -/
def deleteProduct (id : String) : MarketM Unit := do
  let p ← getProduct id
  updateStore fun s => { s with products := s.products.filter (·.id != p.id) }

/-- Adds a coupon from its fields; without an identifier it gets a fresh one. -/
def addCoupon (given : Field.Given) : MarketM Coupon := do
  let fresh ← freshToken
  let c ← lift (Coupon.create given fresh)
  let stored := (← records).coupons
  if stored.any (·.id == c.id) then fail (alreadyPresent "Coupon" "id" c.id)
  if stored.any (·.code == c.code) then fail (alreadyPresent "Coupon" "code" c.code)
  putCoupon c
  return c

end Market

end Bazaar
