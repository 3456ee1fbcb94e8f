import Bazaar.Catalogue.Product
import Bazaar.Cart.Basic
import Bazaar.Coupon
import Bazaar.Order.Action
import Bazaar.Payment.Record
import Bazaar.Notification
import Bazaar.Settings
import Bazaar.Identifier

/-!
# The marketplace and its store

The marketplace holds a store of records (products, coupons, carts, orders, payment records and
inbox rows, each kind in the order it was added) and the things around it that are not records:
its settings, the payment gateway with the calls made to it, the notifier, and plans of competing
stock writers that make compare-and-swap calls lose.

Operations run over the marketplace and may fail. A command runs as one unit of work: when it
fails, the store is put back as it was before the command, while calls to the gateway, sent
notifications and spent plans stay, as they would outside a database.
-/

namespace Bazaar

/-- The records of the marketplace, each kind in the order it was added. -/
structure Store where
  products : List Product := []
  coupons : List Coupon := []
  carts : List Cart := []
  orders : List Order := []
  payments : List Payment := []
  inbox : List Notice := []

namespace Store

/-- Stores a product, in place of those with its identifier if any, else after the others. -/
def putProduct (s : Store) (p : Product) : Store :=
  if s.products.any (·.id == p.id) then
    { s with products := s.products.map fun q => if q.id == p.id then p else q }
  else { s with products := s.products ++ [p] }

/-- Stores an order, in place of those with its identifier if any, else after the others. -/
def putOrder (s : Store) (o : Order) : Store :=
  if s.orders.any (·.id == o.id) then
    { s with orders := s.orders.map fun q => if q.id == o.id then o else q }
  else { s with orders := s.orders ++ [o] }

/-- Stores a coupon, in place of those with its identifier if any, else after the others. -/
def putCoupon (s : Store) (c : Coupon) : Store :=
  if s.coupons.any (·.id == c.id) then
    { s with coupons := s.coupons.map fun q => if q.id == c.id then c else q }
  else { s with coupons := s.coupons ++ [c] }

/-- Stores a cart, in place of those with its identifier if any, else after the others. -/
def putCart (s : Store) (c : Cart) : Store :=
  if s.carts.any (·.id == c.id) then
    { s with carts := s.carts.map fun q => if q.id == c.id then c else q }
  else { s with carts := s.carts ++ [c] }

end Store

/-- A call made to the payment gateway to open a checkout session. -/
structure GatewayCall where
  amountMinor : Int
  currency : String
  successUrl : Json
  cancelUrl : Json
  metadata : List (String × String)
  description : String

/-- The simulated payment gateway: its webhook secret and tolerance, whether it opens sessions or
fails with a reason, and the calls made to it. -/
structure Gateway where
  webhookSecret : Json := .str "whsec_test_secret"
  tolerance : Json := .int 300
  succeeds : Bool := true
  failureReason : String := "Gateway unavailable"
  calls : List GatewayCall := []

/-- Where notifications go: to a recorder that lists them (and may be set to fail), or into the
store as inbox rows. -/
inductive Notifier where
  | recording (sent : List Notice) (succeeds : Bool)
  | inbox

/-- The marketplace: its store and everything around it. -/
structure Market where
  store : Store := {}
  settings : Settings := {}
  gateway : Gateway := {}
  notifier : Notifier := .recording [] true
  /-- For some products, the outcomes of their next compare-and-swap calls: `false` loses without
  writing, `true` lets the call run. -/
  plans : List (String × List Bool) := []
  sessionsIssued : Nat := 0
  tokensIssued : Nat := 0
  /-- The instant, in seconds after the epoch, at which the marketplace answers. -/
  clock : Int := 1794528000

/-- An operation on the marketplace, which may fail. The marketplace after a failure is kept, so
that a unit of work can decide what to put back. -/
abbrev MarketM := ExceptT Fault (StateM Market)

namespace Market

/-- Runs an operation on a marketplace: the outcome and the marketplace after it. -/
def run {α : Type} (act : MarketM α) (m : Market) : Except Fault α × Market :=
  Id.run (StateT.run (ExceptT.run act) m)

/-- Fails with a fault. -/
def fail {α : Type} (f : Fault) : MarketM α :=
  throw f

/-- Lifts a result into an operation. -/
def lift {α : Type} (r : Except Fault α) : MarketM α :=
  match r with
  | .ok a => pure a
  | .error f => throw f

/-- The store as it stands. -/
def records : MarketM Store := do
  return (← get).store

/-- Changes the store. -/
def updateStore (f : Store → Store) : MarketM Unit :=
  modify fun m => { m with store := f m.store }

/-- The settings as they stand. -/
def currentSettings : MarketM Settings := do
  return (← get).settings

/-- Runs a command as one unit of work: if it fails, the store is put back. -/
def unitOfWork {α : Type} (act : MarketM α) : MarketM α := do
  let saved ← records
  tryCatch act fun e => do
    updateStore fun _ => saved
    throw e

/-- The instant at which the marketplace answers. -/
def now : MarketM Instant := do
  return Instant.ofSeconds (← get).clock

/-- A fresh identifier for a generated record, unlike any given one. -/
def freshToken : MarketM String := do
  let m ← get
  set { m with tokensIssued := m.tokensIssued + 1 }
  return (Generated.record (m.tokensIssued + 1)).token

/-- The identifier of the next order placed. -/
def nextOrderId : MarketM String := do
  return (Generated.order ((← records).orders.length + 1)).token

/-- The product with an identifier, if any. -/
def findProduct (id : String) : MarketM (Option Product) := do
  return (← records).products.find? (·.id == id)

/-- The product with an identifier; a missing one is refused. -/
def getProduct (id : String) : MarketM Product := do
  match ← findProduct id with
  | some p => pure p
  | none => fail (Fault.missing "Product" id)

/-- Stores a product, in place of the one with its identifier if any. -/
def putProduct (p : Product) : MarketM Unit :=
  updateStore (·.putProduct p)

/-- The order with an identifier; a missing one is refused. -/
def getOrder (id : String) : MarketM Order := do
  match (← records).orders.find? (·.id == id) with
  | some o => pure o
  | none => fail (Fault.missing "Order" id)

/-- Stores an order, in place of the one with its identifier if any. -/
def putOrder (o : Order) : MarketM Unit :=
  updateStore (·.putOrder o)

/-- Stores a coupon, in place of the one with its identifier if any. -/
def putCoupon (c : Coupon) : MarketM Unit :=
  updateStore (·.putCoupon c)

/-- The coupon with a code, given without surrounding blanks and in any case. -/
def findCoupon (code : String) : MarketM (Option Coupon) := do
  let wanted := Text.toUpper (Text.trimBlank code)
  return (← records).coupons.find? (·.code == wanted)

/-- The customer's cart, if they have one. -/
def findCart (customerId : String) : MarketM (Option Cart) := do
  return (← records).carts.find? (·.customerId == customerId)

/-- Stores a cart, in place of the one with its identifier if any. -/
def putCart (c : Cart) : MarketM Unit :=
  updateStore (·.putCart c)

/-- The customer's cart, created and stored on first use. The customer is looked up by their
text; a new cart checks it as an identifier of at least one character. -/
def cartFor (customer : Json) : MarketM Cart := do
  match ← findCart customer.display with
  | some c => pure c
  | none =>
    let customerId ← match Field.identifier 1 customer with
      | .ok s => pure s
      | .error m => fail (.field "customer_id" m)
    let c : Cart := { id := ← freshToken, customerId }
    putCart c
    pure c

/-- Tells a user something, quietly: a notifier that fails, or a row that breaks the rules of
inbox rows, sends nothing and stops nothing. -/
def notify (userId message : String) (link : Option String) : MarketM Unit := do
  match (← get).notifier with
  | .recording sent succeeds =>
    if succeeds then
      modify fun m => { m with notifier := .recording (sent ++ [{ userId, message, link }]) true }
  | .inbox =>
    match Notice.checked userId message link with
    | .ok n => updateStore fun s => { s with inbox := s.inbox ++ [n] }
    | .error _ => pure ()

end Market

end Bazaar
