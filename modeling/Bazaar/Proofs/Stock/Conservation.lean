import Mathlib
import Bazaar.Proofs.Market.Requests

/-!
# Stock is conserved

Start from a catalogue: stored products with distinct identifiers and stocks that are not
negative, and no orders. Run any requests one after another, each succeeding or failing. In every
market reached, each product keeps a stock that is not negative, and for each product with an
identifier, its stock and the units held by the orders whose stock is still out add up to its
stock in the catalogue. Stock taken for an order comes back once, whichever cancellation comes
first, and a placement that fails takes nothing.

Lines that name a product without an identifier are skipped when stock is given back, so for such
a product the units held by cancelled orders never come back; the balance is stated for products
with an identifier.

The proof sorts what one request can do to the products and orders into three kinds
(`Store.StockStep`): nothing, placing an order after taking its stock, or writing an order back
under its identifier after giving back the stock it no longer holds. `Store.Conserves` is the
invariant; each kind of step keeps it, and every request takes one of these steps.
-/

open Std.Do

set_option mvcgen.warning false

namespace Bazaar

namespace Order

/-- For a product with an identifier, giving back an order's stock returns what it holds. -/
theorem givenBack_of_ne_blank (o : Order) {id : String} (named : id ≠ "") :
    o.givenBack id = Store.heldBy o id := by
  simp [givenBack, Store.heldBy, OrderItem.returnedUnits, named]

theorem givenBack_of_restored {o : Order} (restored : o.stockRestored = true) :
    o.givenBack = 0 := by
  funext id
  simp [givenBack, restored]

end Order

namespace Store

theorem stockOf_of_products_eq {s s' : Store} (same : s'.products = s.products) (id : String) :
    s'.stockOf id = s.stockOf id := by
  simp [stockOf, same]

/-- With distinct identifiers, a stored product's stock is the stock of its identifier. -/
theorem stockOf_of_mem {s : Store} {p : Product} (distinct : s.productIds.Nodup)
    (member : p ∈ s.products) : s.stockOf p.id = p.stock := by
  cases found : s.products.find? (·.id == p.id) with
  | none => exact absurd (List.find?_eq_none.mp found p member) (by simp)
  | some q =>
    have sameId := Market.id_of_find?_product found
    have same : q = p :=
      List.inj_on_of_nodup_map distinct (List.mem_of_find?_eq_some found) member sameId
    simp [stockOf, found, same]

/-- What one request can do to the products and the orders. -/
inductive StockStep (s : Store) : Store → Prop
  /-- Products and orders as they were. -/
  | keep {s' : Store} (products_eq : s'.products = s.products) (orders_eq : s'.orders = s.orders) :
      StockStep s s'
  /-- The stock of an order's lines taken, then the order placed. -/
  | place {s' moved : Store} {o : Order}
      (taken : StockMove s moved fun id => -OrderItem.unitsOf o.items id)
      (placed : Placed moved s' o) : StockStep s s'
  /-- A stored order written back under its identifier with its lines, after giving back the
  stock it held and no longer holds. -/
  | rewrite {s' moved : Store} {old o : Order} (member : old ∈ s.orders) (sameId : o.id = old.id)
      (sameItems : o.items = old.items)
      (given : StockMove s moved fun id => old.givenBack id - o.givenBack id)
      (products_eq : s'.products = moved.products)
      (orders_eq : s'.orders = (s.putOrder o).orders) : StockStep s s'

/-- A write of a stored order that keeps its identifier, lines and stock mark, and leaves the
products alone. -/
theorem StockStep.of_kept {s s' : Store} {old o : Order} (member : old ∈ s.orders)
    (sameId : o.id = old.id) (sameItems : o.items = old.items)
    (sameMark : o.stockRestored = old.stockRestored) (products_eq : s'.products = s.products)
    (orders_eq : s'.orders = (s.putOrder o).orders) : StockStep s s' := by
  have unmoved : StockMove s s fun id => old.givenBack id - o.givenBack id :=
    (StockMove.refl s).congr fun id _ => by simp [Order.givenBack, sameItems, sameMark]
  exact .rewrite member sameId sameItems unmoved products_eq orders_eq

theorem StockStep.of_eq {s s' : Store} (same : s' = s) : StockStep s s' :=
  .keep (by rw [same]) (by rw [same])

/-- A change of the carts alone. -/
theorem StockStep.of_carts {s s' : Store} (written : { s' with carts := s.carts } = s) :
    StockStep s s' := by
  obtain ⟨products_eq, -, orders_eq, -, -⟩ := fields_of_with_carts written
  exact .keep products_eq orders_eq

/-- A write of a stored order, after which a customer may be told. -/
theorem StockStep.of_told {s s' : Store} {old o : Order} (member : old ∈ s.orders)
    (sameId : o.id = old.id) (sameItems : o.items = old.items)
    (sameMark : o.stockRestored = old.stockRestored)
    (written : { s' with inbox := s.inbox } = s.putOrder o) : StockStep s s' := by
  obtain ⟨products_eq, -, -, orders_eq, -⟩ := fields_of_with_inbox written
  exact .of_kept member sameId sameItems sameMark (by simpa using products_eq) orders_eq

/-- A cancellation: the stock a stored order held given back, then the order written back
cancelled with its stock mark set. -/
theorem StockStep.of_given_back {s s' moved : Store} {old : Order} {target : OrderStatus}
    (member : old ∈ s.orders) (given : StockMove s moved old.givenBack)
    (written : { s' with inbox := s.inbox } =
      moved.putOrder { old.cancelledInto target with stockRestored := true }) :
    StockStep s s' := by
  obtain ⟨products_eq, -, -, orders_eq, -⟩ := fields_of_with_inbox written
  let cancelled : Order := { old.cancelledInto target with stockRestored := true }
  have cancelledBack : cancelled.givenBack = 0 := Order.givenBack_of_restored rfl
  refine .rewrite (o := cancelled) member rfl rfl
    (given.congr fun id _ => by simp [cancelledBack]) ?_ ?_
  · simpa using products_eq
  · rw [orders_eq, putOrder_orders, putOrder_orders, given.orders_eq]

/-- A staff status update: nothing, a cancellation, or a step of a stored order. -/
theorem StockStep.of_updated {s s' : Store} {old : Order} {target : OrderStatus}
    (member : old ∈ s.orders) (updated : StatusUpdate s s' old target) : StockStep s s' := by
  cases updated with
  | same _ unchanged => exact .of_eq unchanged
  | cancelled _ _ _ given written => exact .of_given_back member given written
  | stepped _ _ _ written => exact .of_told (o := old.steppedTo target) member rfl rfl rfl written

/-- The stock invariant of a store reached from the catalogue `s₀`. -/
structure Conserves (s₀ s : Store) : Prop where
  ids_eq : s.productIds = s₀.productIds
  nonneg : ∀ p ∈ s.products, 0 ≤ p.stock
  numbered : s.OrdersNumbered
  balance : ∀ id ∈ s₀.productIds, id ≠ "" → s.stockOf id + s.reservedUnits id = s₀.stockOf id

theorem Conserves.start {s₀ : Store} (catalogue : s₀.orders = [])
    (stocked : ∀ p ∈ s₀.products, 0 ≤ p.stock) : Conserves s₀ s₀ where
  ids_eq := rfl
  nonneg := stocked
  numbered := ordersNumbered_of_orders_nil catalogue
  balance id _ _ := by simp [reservedUnits, catalogue]

section Steps

variable {s₀ s s' : Store}

theorem Conserves.keep (inv : Conserves s₀ s) (products_eq : s'.products = s.products)
    (orders_eq : s'.orders = s.orders) : Conserves s₀ s' where
  ids_eq := by rw [productIds, products_eq]; exact inv.ids_eq
  nonneg := products_eq ▸ inv.nonneg
  numbered := ordersNumbered_of_orders_eq orders_eq inv.numbered
  balance id stored named := by
    rw [stockOf_of_products_eq products_eq, reservedUnits_of_orders_eq orders_eq]
    exact inv.balance id stored named

theorem Conserves.place {moved : Store} {o : Order} (inv : Conserves s₀ s)
    (taken : StockMove s moved fun id => -OrderItem.unitsOf o.items id)
    (placed : Placed moved s' o) : Conserves s₀ s' := by
  -- the placed store is the moved one with the order appended
  have products_eq : s'.products = moved.products := by
    simpa using congrArg Store.products placed.stored
  have orders_eq : s'.orders = (moved.putOrder o).orders := by
    simpa using congrArg Store.orders placed.stored
  have movedOrders : moved.orders = s.orders := taken.orders_eq
  have movedNumbered : moved.OrdersNumbered := ordersNumbered_of_orders_eq movedOrders inv.numbered
  have fresh : ∀ q ∈ moved.orders, q.id ≠ o.id := by
    rw [placed.numbered]
    exact movedNumbered.next_fresh
  refine ⟨?_, ?_, ?_, ?_⟩
  · rw [productIds, products_eq]
    exact taken.ids_eq.trans inv.ids_eq
  · intro p member
    rcases taken.written p (products_eq ▸ member) with kept | written
    · exact inv.nonneg p kept
    · exact written
  · exact ordersNumbered_of_orders_eq orders_eq (movedNumbered.putOrder_next placed.numbered)
  · intro id stored named
    have stockNow := taken.stock_eq id (inv.ids_eq ▸ stored)
    have heldNow := reservedUnits_putOrder_of_fresh fresh id
    have heldBefore := reservedUnits_of_orders_eq movedOrders id
    have balanced := inv.balance id stored named
    rw [stockOf_of_products_eq products_eq, reservedUnits_of_orders_eq orders_eq]
    simp only [heldBy, placed.holding] at heldNow
    simp only [Bool.false_eq_true, if_false] at heldNow
    omega

theorem Conserves.rewrite {moved : Store} {old o : Order} (inv : Conserves s₀ s)
    (member : old ∈ s.orders) (sameId : o.id = old.id)
    (given : StockMove s moved fun id => old.givenBack id - o.givenBack id)
    (products_eq : s'.products = moved.products) (orders_eq : s'.orders = (s.putOrder o).orders) :
    Conserves s₀ s' := by
  refine ⟨?_, ?_, ?_, ?_⟩
  · rw [productIds, products_eq]
    exact given.ids_eq.trans inv.ids_eq
  · intro p written
    rcases given.written p (products_eq ▸ written) with kept | nonneg
    · exact inv.nonneg p kept
    · exact nonneg
  · exact ordersNumbered_of_orders_eq orders_eq (inv.numbered.putOrder_of_mem member sameId)
  · intro id stored named
    have stockNow := given.stock_eq id (inv.ids_eq ▸ stored)
    have heldNow := reservedUnits_putOrder_of_mem inv.numbered.nodup member sameId id
    have balanced := inv.balance id stored named
    rw [Order.givenBack_of_ne_blank old named, Order.givenBack_of_ne_blank o named] at stockNow
    rw [stockOf_of_products_eq products_eq, reservedUnits_of_orders_eq orders_eq]
    omega

/-- Every kind of step keeps the invariant. -/
theorem Conserves.step (inv : Conserves s₀ s) (step : StockStep s s') : Conserves s₀ s' := by
  cases step with
  | keep products_eq orders_eq => exact inv.keep products_eq orders_eq
  | place taken placed => exact inv.place taken placed
  | rewrite member sameId _ given products_eq orders_eq =>
    exact inv.rewrite member sameId given products_eq orders_eq

end Steps

end Store

namespace Market

open Store

/-- A reconciled event pays an order, fails its payment or adds a record, keeping every order's
lines and stock mark. -/
theorem stockStep_of_event {orderId : String} {ev : Webhook.Event} {s s' : Store} {status : String}
    (effect : eventEffect orderId ev s status s') : StockStep s s' := by
  cases ev with
  | checkoutCompleted e =>
    obtain ⟨c, -, duplicate | processed⟩ := effect
    · exact .of_eq duplicate.2
    · obtain ⟨-, old, member, -, -, -, -, amount, p, -, written⟩ := processed
      have products_eq := congrArg Store.products written
      have orders_eq := congrArg Store.orders written
      exact .of_kept member (Order.paid_id old) (Order.paid_items old)
        (Order.paid_stockRestored old) (by simpa using products_eq) orders_eq
  | paymentFailed e =>
    obtain ⟨c, -, unchanged | processed⟩ := effect
    · exact .of_eq unchanged.2
    · obtain ⟨-, old, member, -, -, -, -, amount, p, -, written⟩ := processed
      have products_eq := congrArg Store.products written
      have orders_eq := congrArg Store.orders written
      exact .of_kept (o := { old with paymentStatus := .failed }) member rfl rfl rfl
        (by simpa using products_eq) orders_eq
  | chargeRefunded e =>
    obtain ⟨c, -, duplicate | processed⟩ := effect
    · exact .of_eq duplicate.2
    · obtain ⟨-, old, member, -, -, amount, p, -, written⟩ := processed
      exact .keep (by rw [written]) (by rw [written])
  | unhandled => exact .of_eq effect.2

/-- Every request takes one of the kinds of steps, whether it succeeds or fails. -/
theorem request_stockStep (r : Request) (s₀ : Store) :
    ⦃fun m => ⌜m.store = s₀⌝⦄ r.run
    ⦃post⟨fun _ m => ⌜StockStep s₀ m.store⌝, fun _ m => ⌜StockStep s₀ m.store⌝⟩⦄ := by
  have unchanged : StockStep s₀ s₀ := .of_eq rfl
  refine RequestCases.holds
    { start := unchanged
      carts := .of_carts
      placing := ?_
      checkingOut := ?_
      cancelled := ?_
      updated := .of_updated
      tracked := ?_
      session := ?_
      reconciled := stockStep_of_event } r
  · intro given
    exact holds_of_spec (Command.placeOrder_spec given s₀)
      (by rintro _ _ ⟨_, taken, placed⟩; exact .place taken placed) unchanged
  · intro given
    exact holds_of_spec (Command.checkoutCart_spec given s₀)
      (by rintro _ _ ⟨_, taken, placed⟩; exact .place taken placed) unchanged
  · intro _ _ _ member _ given written
    exact .of_given_back member given written
  · intro _ old t member _ written
    exact .of_told (o := { old with
      trackingNumber := some t
      status := if old.status = .processing then .shipped else old.status })
      member rfl rfl rfl written
  · intro _ old session member _ written
    exact .of_kept (o := { old with checkoutSessionId := session }) member rfl rfl rfl
      (by rw [written]; simp) (by rw [written])

/-- Running a request from any market takes a stock step from its store. -/
theorem stockStep_run (r : Request) (m : Market) : StockStep m.store (run r.run m).2.store :=
  store_of_triple (P := fun m' => m'.store = m.store) rfl (request_stockStep r m.store)

/-- Every market reached from a catalogue by requests keeps the stock invariant. -/
theorem conserves_of_reachable {start m : Market} (catalogue : start.store.orders = [])
    (stocked : ∀ p ∈ start.store.products, 0 ≤ p.stock) (reached : Reachable Request.run start m) :
    Conserves start.store m.store := by
  induction reached with
  | start => exact .start catalogue stocked
  | step r _ ih => exact ih.step (stockStep_run r _)

/-- Stock is conserved: in every market reached from a catalogue by requests, each product's stock
is not negative and, for a product with an identifier, its stock and the units held by orders whose
stock is still out make up its stock in the catalogue. -/
theorem stock_conserved {start m : Market} (catalogue : start.store.orders = [])
    (distinct : start.store.productIds.Nodup)
    (stocked : ∀ p ∈ start.store.products, 0 ≤ p.stock) (reached : Reachable Request.run start m) :
    ∀ p ∈ m.store.products, 0 ≤ p.stock ∧
      (p.id ≠ "" → p.stock + m.store.reservedUnits p.id = start.store.stockOf p.id) := by
  intro p member
  have inv := conserves_of_reachable catalogue stocked reached
  refine ⟨inv.nonneg p member, fun named => ?_⟩
  have listed : p.id ∈ m.store.productIds := List.mem_map_of_mem member
  have current : m.store.stockOf p.id = p.stock := stockOf_of_mem (inv.ids_eq ▸ distinct) member
  rw [← current]
  exact inv.balance p.id (inv.ids_eq ▸ listed) named

/-- Placing the sample order takes two of the ten lamps into it: eight stay on the shelf and two
are held by the order. -/
theorem stock_conserved_after_placing :
    let m := (run (Request.placeOrder lampOrder).run lampShop).2
    (lampShop.store.orders = [] ∧ lampShop.store.productIds.Nodup ∧
      ∀ p ∈ lampShop.store.products, 0 ≤ p.stock) ∧
    (m.store.products.map Product.stock = [8] ∧ m.store.reservedUnits "lamp" = 2) ∧
    ∀ p ∈ m.store.products, 0 ≤ p.stock ∧
      (p.id ≠ "" → p.stock + m.store.reservedUnits p.id = lampShop.store.stockOf p.id) := by
  have placed : (run (Request.placeOrder lampOrder).run lampShop).2.store.products.map
        Product.stock = [8] ∧
      (run (Request.placeOrder lampOrder).run lampShop).2.store.reservedUnits "lamp" = 2 := by
    decide +kernel
  exact ⟨⟨rfl, by decide, by decide⟩, placed,
    stock_conserved rfl (by decide) (by decide) (.step (Request.placeOrder lampOrder) .start)⟩

end Market

end Bazaar
