import Bazaar.Market.Placement

/-!
# Fulfilling orders

Customers cancel their own orders; staff move orders along the status machine and add tracking
numbers. Admins manage every order, sellers only the orders that hold one of their products, and
sellers may set only the processing and shipped statuses. Moving an order into a cancellation
gives its stock back, once per order: the order's stock mark is set in the same unit of work as
the stock writes, so whichever cancellation comes first gives the stock back and later ones do
nothing. Customers are told about cancellations, shipping and delivery.

Listings show orders newest first, narrowed by customer, seller and status, a page at a time.
-/

namespace Bazaar

namespace Market

/-- Runs an action on an order; answers its outcome and the changed order, which is not stored. -/
def onOrder {α : Type} (o : Order) (a : OrderAction α) : MarketM (α × Order) :=
  match OrderAction.run a o with
  | (.ok x, o', _) => pure (x, o')
  | (.error f, _, _) => fail f

/-- Refuses a requester who does not own the order. -/
def ensureOwner (o : Order) (requester : String) : MarketM Unit :=
  if o.isOwnedBy (.str requester) then pure ()
  else fail (.forbidden ("Order " ++ o.id ++ " does not belong to the requesting customer"))

/-- Refuses staff who may not manage the order: only admins, and sellers of one of its products. -/
def ensureStaffCanManage (o : Order) (actor : String) (role : ActorRole) : MarketM Unit :=
  match role with
  | .admin => pure ()
  | .seller =>
    if o.sellers.contains actor then pure ()
    else fail (.forbidden ("Not permitted to manage order " ++ o.id))
  | .customer => fail (.forbidden ("Not permitted to manage order " ++ o.id))

/-- Refuses a status that the role may not set: sellers set only processing and shipped. -/
def ensureStatusAllowed (role : ActorRole) (target : OrderStatus) : MarketM Unit :=
  if role == .admin || target == .processing || target == .shipped then pure ()
  else fail (.forbidden ("Sellers cannot set order status to " ++ target.name))

/-- Gives every line's quantity back to stock, once per order, and marks the order. Lines without
a product are skipped, and so are products that no longer exist. -/
def restoreStockFor (o : Order) : MarketM Order := do
  if o.stockRestored then return o
  for item in o.items do
    match item.productId with
    | some p =>
      if !p.isEmpty then
        let _ ← restore p (.int item.quantity)
    | none => pure ()
  let ((), o') ← onOrder o Order.markStockRestored
  return o'

/-- The link to an order's page. -/
def orderLink (o : Order) : Option String :=
  some ("/orders/" ++ o.id)

/-- What the customer is told about an order's new status, if anything. -/
def statusMessage (o : Order) : Option String :=
  if o.status == .shipped then
    match o.trackingNumber with
    | some t =>
      if t.isEmpty then some ("Your order #" ++ o.id ++ " has shipped!")
      else some ("Your order #" ++ o.id ++ " has shipped! Tracking number: " ++ t)
    | none => some ("Your order #" ++ o.id ++ " has shipped!")
  else if o.status == .delivered then some ("Your order #" ++ o.id ++ " has been delivered.")
  else if o.status.isCancelled then some ("Your order #" ++ o.id ++ " has been cancelled.")
  else none

/-- A customer cancels their order; answers the status after it. -/
def cancelOrder (orderId requester : String) : MarketM OrderStatus := do
  let o ← getOrder orderId
  ensureOwner o requester
  let (giveBack, o) ← onOrder o (Order.cancel .cancelledByCustomer)
  let o ← if giveBack then restoreStockFor o else pure o
  putOrder o
  notify o.customerId ("Your order #" ++ o.id ++ " has been cancelled.") (orderLink o)
  return o.status

/-- Staff set an order's status; answers the status after it. Setting the current status does
nothing. -/
def updateOrderStatus (orderId : String) (target : OrderStatus) (actor : String)
    (role : ActorRole) : MarketM OrderStatus := do
  let o ← getOrder orderId
  ensureStaffCanManage o actor role
  ensureStatusAllowed role target
  let (changed, o) ← onOrder o (Order.updateStatus target)
  if !changed then return o.status
  let o ← if target.isCancelled then restoreStockFor o else pure o
  putOrder o
  if let some m := statusMessage o then notify o.customerId m (orderLink o)
  return o.status

/-- Staff add a tracking number; answers the status after it. -/
def addTracking (orderId : String) (trackingNumber : String) (actor : String)
    (role : ActorRole) : MarketM OrderStatus := do
  let o ← getOrder orderId
  ensureStaffCanManage o actor role
  let (advanced, o) ← onOrder o (Order.addTrackingNumber (.str trackingNumber))
  putOrder o
  if advanced then
    notify o.customerId ((statusMessage o).getD "") (orderLink o)
  return o.status

/-- Whether `needle` occurs in `hay` as a run of characters. -/
def occursIn (needle hay : List Char) : Bool :=
  match hay with
  | [] => needle.isEmpty
  | c :: rest => needle.isPrefixOf (c :: rest) || occursIn needle rest

/-- What narrows a listing: a customer, a seller and a status, each optional. -/
structure OrderFilter where
  customer : Option String := none
  seller : Option String := none
  status : Option OrderStatus := none

/-- Whether an order passes a filter. -/
def OrderFilter.admits (f : OrderFilter) (o : Order) : Bool :=
  (f.customer.all (o.customerId == ·)) &&
  (f.seller.all fun s => occursIn ("|" ++ s ++ "|").toList o.sellerRefs.toList) &&
  (f.status.all (o.status == ·))

/-- A page of orders: the orders on it, how many matched, and where the page starts and its size
as they were asked for. -/
structure OrderPage where
  orders : List Order
  total : Nat
  offset : Json
  limit : Json

/-- The whole number of a paging value, or the default for a value that is no whole number. -/
def pagingValue (v : Json) (default : Int) : Int :=
  match v with
  | .int n => n
  | .bool b => if b then 1 else 0
  | _ => default

/-- A position of a slice bound counted from the end when negative, kept within the list. -/
def sliceBound (length : Nat) (i : Int) : Nat :=
  if i < 0 then (i + length).toNat else min i.toNat length

/-- The items from `start` up to `stop`, as slices count. -/
def slice {α : Type} (xs : List α) (start : Int) (stop : Option Int) : List α :=
  let a := sliceBound xs.length start
  let b := match stop with
    | some s => sliceBound xs.length s
    | none => xs.length
  (xs.drop a).take (b - a)

/-- The orders that pass a filter, newest first, paged. A start or size that is no whole number
counts as the start and the size of 100; a size of zero means no limit. -/
def searchOrders (f : OrderFilter) (offset limit : Json) : MarketM OrderPage := do
  let matching := ((← records).orders.filter f.admits).reverse
  let start := pagingValue offset 0
  let size := pagingValue limit 100
  let page := slice matching start (if size == 0 then none else some (start + size))
  return ⟨page, matching.length, offset, limit⟩

/-- A customer's orders. -/
def customerOrders (customer : Json) (status : Option OrderStatus) (offset limit : Json) :
    MarketM OrderPage :=
  searchOrders { customer := if customer.truthy then some customer.display else none, status }
    offset limit

/-- The orders a staff member manages: all of them for admins, those holding one of their
products for sellers. -/
def managedOrders (actor : Json) (role : ActorRole) (status : Option OrderStatus) (customer : Json)
    (offset limit : Json) : MarketM OrderPage :=
  let byCustomer := if customer.truthy then some customer.display else none
  match role with
  | .admin => searchOrders { customer := byCustomer, status } offset limit
  | .seller =>
    let bySeller := if actor.truthy then some actor.display else none
    searchOrders { customer := byCustomer, seller := bySeller, status } offset limit
  | .customer => fail (.forbidden "Only staff may list orders they manage")

end Market

end Bazaar
