import Bazaar.Market.Payment

/-!
# Commands

A command names a change to the marketplace by its fields. Its fields are checked first, all of
them, as the command declares them: identifiers of at least one character, texts of bounded length,
whole numbers at least one, and choices among fixed names. A command whose fields pass runs as one
unit of work, so that when it fails no record it touched is changed.

Orders are placed from JSON texts, as a client that sends them over the wire does: the lines and
the addresses are read from their texts only once the command runs.
-/

namespace Bazaar

namespace Market

namespace Command

/-- Checks a command's fields. -/
def checked {α : Type} (v : Validation α) : MarketM α :=
  lift v.toExcept

/-- The names of the order statuses. -/
def statusNames : List String :=
  OrderStatus.all.map OrderStatus.name

/-- The names of the roles. -/
def roleNames : List String :=
  ActorRole.all.map ActorRole.name

/-- The status of a name that passed its choice. -/
def statusNamed (s : String) : MarketM OrderStatus :=
  match OrderStatus.ofName? s with
  | some st => pure st
  | none => fail .badValue

/-- The role of a name that passed its choice. -/
def roleNamed (s : String) : MarketM ActorRole :=
  match ActorRole.ofName? s with
  | some r => pure r
  | none => fail .badValue

/-- The customer and product of a cart command. -/
def cartLine (given : Field.Given) : Validation (String × String) :=
  (fun c p => (c, p))
    <$> Field.required given "customer_id" (Field.identifier 1)
    <*> Field.required given "product_id" (Field.identifier 1)

/-- The quantity of a cart command. -/
def cartQuantity (given : Field.Given) : Validation Int :=
  Field.required given "quantity" (Field.integer (some 1))

/-- Adds a quantity of a product to a customer's cart. -/
def addToCart (given : Field.Given) : MarketM Unit := do
  let ((c, p), q) ← checked ((fun l q => (l, q)) <$> cartLine given <*> cartQuantity given)
  unitOfWork (Market.addToCart c p q)

/-- Sets the quantity of a product in a customer's cart. -/
def updateCartItem (given : Field.Given) : MarketM Unit := do
  let ((c, p), q) ← checked ((fun l q => (l, q)) <$> cartLine given <*> cartQuantity given)
  unitOfWork (Market.updateCartItem c p q)

/-- Removes a product from a customer's cart. -/
def removeFromCart (given : Field.Given) : MarketM Unit := do
  let (c, p) ← checked (cartLine given)
  unitOfWork (Market.removeFromCart c p)

/-- Empties a customer's cart; answers how many lines it had. -/
def clearCart (given : Field.Given) : MarketM Nat := do
  let c ← checked (Field.required given "customer_id" (Field.identifier 1))
  unitOfWork (Market.clearCart c)

/-- The checked fields of a checkout. -/
def checkoutFields (given : Field.Given) : Validation Checkout :=
  (fun c s b p k => Checkout.mk c s b p k)
    <$> Field.required given "customer_id" (Field.identifier 1)
    <*> Field.required given "shipping_address" (Field.text 1 none)
    <*> Field.optional given "billing_address" (Field.text 0 none)
    <*> Field.withFallback given "payment_method" "CARD" (Field.text 0 (some 50))
    <*> Field.optional given "coupon_code" (Field.text 0 (some 50))

/-- Places an order for the lines given as a JSON text. -/
def placeOrder (given : Field.Given) : MarketM Order := do
  let (c, items) ← checked ((fun c i => (c, i))
    <$> checkoutFields given
    <*> Field.required given "items" (Field.text 1 none))
  unitOfWork do
    let lines ← lift (readJsonText items)
    let (shipping, billing) ← lift c.addresses
    Market.placeOrder c shipping billing lines

/-- Places an order for the lines of the customer's cart. -/
def checkoutCart (given : Field.Given) : MarketM Order := do
  let c ← checked (checkoutFields given)
  unitOfWork (Market.checkoutCart c)

/-- A customer cancels their order; answers the status after it. -/
def cancelOrder (given : Field.Given) : MarketM OrderStatus := do
  let (o, r) ← checked ((fun o r => (o, r))
    <$> Field.required given "order_id" (Field.identifier 1)
    <*> Field.required given "requester_id" (Field.identifier 1))
  unitOfWork (Market.cancelOrder o r)

/-- Staff set an order's status; answers the status after it. -/
def updateOrderStatus (given : Field.Given) : MarketM OrderStatus := do
  let (o, s, a, r) ← checked ((fun o s a r => (o, s, a, r))
    <$> Field.required given "order_id" (Field.identifier 1)
    <*> Field.required given "new_status" (Field.choice statusNames)
    <*> Field.required given "actor_id" (Field.identifier 1)
    <*> Field.required given "actor_role" (Field.choice roleNames))
  let target ← statusNamed s
  let role ← roleNamed r
  unitOfWork (Market.updateOrderStatus o target a role)

/-- Staff add a tracking number; answers the status after it. -/
def addTrackingNumber (given : Field.Given) : MarketM OrderStatus := do
  let (o, t, a, r) ← checked ((fun o t a r => (o, t, a, r))
    <$> Field.required given "order_id" (Field.identifier 1)
    <*> Field.required given "tracking_number" (Field.text 1 (some 100))
    <*> Field.required given "actor_id" (Field.identifier 1)
    <*> Field.required given "actor_role" (Field.choice roleNames))
  let role ← roleNamed r
  unitOfWork (Market.addTracking o t a role)

end Command

end Market

end Bazaar
