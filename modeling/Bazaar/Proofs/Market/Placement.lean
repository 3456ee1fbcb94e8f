import Mathlib
import Bazaar.Proofs.Stock.Ledger
import Bazaar.Proofs.Stock.Reservation

/-!
# What placing an order does to the store

Placing an order reads the lines and checks them without writing, takes stock line by line, and
then settles the order: it prices the lines, applies the coupon and stores the order under the next
order identifier. `Store.Placed s s' o` names the last part: `s'` is `s` with `o` stored as a new
order, awaiting its payment and holding its stock, with nothing else changed but the coupons.

A placement that succeeds moves the stock of every product down by the units its order holds, and
then places the order (`Market.placeOrder_spec`). As a command it runs in a unit of work, so a
placement that fails, whether before or after it took stock, leaves the store as it found it.
-/

open Std.Do

set_option mvcgen.warning false

namespace Bazaar

namespace Store

/-- `s'` is `s` with the order `o` placed: `o` is written under the next order identifier,
awaiting its payment and holding its stock, and nothing else has changed but the coupons. -/
@[mk_iff]
structure Placed (s s' : Store) (o : Order) : Prop where
  numbered : o.id = orderToken s.orders.length
  awaiting : o.status = .pendingPayment
  unpaid : o.paymentStatus = .pending
  holding : o.stockRestored = false
  stored : { s' with coupons := s.coupons } = s.putOrder o

/-- Taking `q` units of a product and then the stock of the other lines takes the stock of all
the lines. -/
theorem StockMove.reserve_then {s₀ s₁ s₂ : Store} {p : Product} {productId : String} {q : Int}
    {rest : List (String × Int)}
    (found : s₀.products.find? (·.id == productId) = some p) (covered : q ≤ p.stock)
    (written : s₁ = s₀.putProduct { p with stock := p.stock - q, version := p.version + 1 })
    (restMoved : StockMove s₁ s₂ fun id => -Market.linesUnits rest id) :
    StockMove s₀ s₂ fun id => -Market.linesUnits ((productId, q) :: rest) id := by
  have taken := stockMove_write found (by omega : 0 ≤ p.stock - q)
  rw [← written] at taken
  refine (taken.trans restMoved).congr fun id _ => ?_
  by_cases same : id = productId
  · subst same
    simp [Market.linesUnits]
    ring
  · simp [Market.linesUnits, same, Ne.symm same]

end Store

namespace Market

open Store

@[spec]
theorem lineOf_spec (line : Json) (m₀ : Market) :
    ⦃fun m => ⌜m = m₀⌝⦄ lineOf line ⦃post⟨fun _ m => ⌜m = m₀⌝, fun _ m => ⌜m = m₀⌝⟩⦄ := by
  mvcgen [lineOf]
  all_goals simp_all

@[spec]
theorem mergeLines_spec (lines : Json) (m₀ : Market) :
    ⦃fun m => ⌜m = m₀⌝⦄ mergeLines lines ⦃post⟨fun _ m => ⌜m = m₀⌝, fun _ m => ⌜m = m₀⌝⟩⦄ := by
  -- one loop for each shape the lines may have; none of them writes
  mvcgen [mergeLines] invariants
  · post⟨fun _ m => ⌜m = m₀⌝, fun _ m => ⌜m = m₀⌝⟩
  · post⟨fun _ m => ⌜m = m₀⌝, fun _ m => ⌜m = m₀⌝⟩
  · post⟨fun _ m => ⌜m = m₀⌝, fun _ m => ⌜m = m₀⌝⟩
  all_goals simp_all

/-- The coupon a checkout names, if any, is a stored one. -/
@[spec]
theorem couponNamed_spec (code : Option String) (m₀ : Market) :
    ⦃fun m => ⌜m = m₀⌝⦄ couponNamed code
    ⦃post⟨fun found m => ⌜m = m₀ ∧ ∀ cp, found = some cp → cp ∈ m₀.store.coupons⌝,
      fun _ m => ⌜m = m₀⌝⟩⦄ := by
  mvcgen [couponNamed]
  case vc3 =>
    -- a coupon found by its code is a stored one
    rename_i m atStart _ cp _ m' read
    obtain ⟨rfl, found⟩ := read
    subst atStart
    exact ⟨rfl, fun _ same => Option.some.inj same ▸ List.mem_of_find?_eq_some found⟩
  -- no code, or an unknown one: no coupon, and nothing written
  all_goals simp_all

/-- Putting stock back after a failure never fails: a line that cannot be put back is skipped.
What it writes depends on competing writers; `Market.release_calm` says it when they let it. -/
@[spec]
theorem release_spec (reserved : List (String × Int)) :
    ⦃fun _ => ⌜True⌝⦄ release reserved ⦃⇓ _ _ => ⌜True⌝⦄ := by
  mvcgen [release] invariants
  · ⇓ _ _ => ⌜True⌝

/-- Taking stock for merged lines moves each product's stock down by the units its lines ask
for, and answers one product for each line. -/
theorem reserveAll_spec (lines : List (String × Int)) :
    ∀ (done : List (String × Int)) (s₀ : Store),
    ⦃fun m => ⌜m.store = s₀⌝⦄ reserveAll done lines
    ⦃post⟨fun taken m => ⌜StockMove s₀ m.store (fun id => -linesUnits lines id) ∧
        taken.map (·.id) = lines.map (·.1)⌝, fun _ _ => ⌜True⌝⟩⦄ := by
  induction lines with
  | nil =>
    intro done s₀
    mvcgen [reserveAll]
    simp_all
    exact StockMove.refl s₀
  | cons line rest ih =>
    intro done s₀
    obtain ⟨productId, q⟩ := line
    mvcgen [reserveAll, ih]
    rename_i m₁ atStart p m₂ reserved ps m₃ restMoved
    obtain ⟨_, found, covered, written⟩ := reserved
    obtain ⟨moved, named⟩ := restMoved
    subst atStart
    refine ⟨StockMove.reserve_then found covered written moved, ?_⟩
    simp [named, id_of_find?_product found]

@[spec]
theorem totalOf_spec (lines : List (Product × Int)) (m₀ : Market) :
    ⦃fun m => ⌜m = m₀⌝⦄ totalOf lines ⦃post⟨fun _ m => ⌜m = m₀⌝, fun _ m => ⌜m = m₀⌝⟩⦄ := by
  -- the money functions are opaque to the generator; it only needs that they read nothing
  unfold totalOf
  generalize Money.roundFloat = roundPrice
  generalize Money.decimalOfFloat = decimalOf
  generalize Money.arith = arith
  mvcgen invariants
  · post⟨fun _ m => ⌜m = m₀⌝, fun _ m => ⌜m = m₀⌝⟩
  all_goals simp_all

/-- Building an order of a placement gives the facts of `Order.placed_of_place`. It takes
precedence over `lift_spec`, which would keep only the equation. -/
@[spec high]
theorem liftPlace_spec (id : String) (p : Placement) (m₀ : Market) :
    ⦃fun m => ⌜m = m₀⌝⦄ lift (Order.place id p)
    ⦃post⟨fun r m => ⌜m = m₀ ∧ r.1.id = id ∧ r.1.status = .pendingPayment ∧
        r.1.paymentStatus = .pending ∧ r.1.stockRestored = false ∧
        Order.linesOf p.items = .ok r.1.items ∧
        r.1.couponId = if p.couponId.isNull then none else some p.couponId.display⌝,
      fun _ m => ⌜m = m₀⌝⟩⦄ := by
  mvcgen
  · intro atStart placed
    obtain ⟨sameId, awaiting, unpaid, stockOut, linesRead, couponRead, -⟩ :=
      Order.placed_of_place placed.symm
    exact ⟨by simp_all, sameId, awaiting, unpaid, stockOut, linesRead, couponRead⟩
  · intro atStart _
    simp_all

/-- Settling taken lines places an order whose lines name the products taken, with their
quantities. -/
theorem settle_spec (c : Checkout) (shipping billing : Json) (coupon : Option Coupon)
    (lines : List (Product × Int)) (s₀ : Store) :
    ⦃fun m => ⌜m.store = s₀⌝⦄ settle c shipping billing coupon lines
    ⦃post⟨fun o m => ⌜Placed s₀ m.store o ∧
        List.Forall₂ (fun l i => i.productId = some l.1.id ∧ i.quantity = l.2) lines o.items⌝,
      fun _ _ => ⌜True⌝⟩⦄ := by
  mvcgen [settle]
  all_goals simp_all [placed_iff, orderToken, Store.putOrder_eq]
  -- the order's lines are read back from the placement, whose lines are the ones taken
  all_goals
    obtain ⟨-, -, -, -, -, read, -⟩ := ‹_ ∧ _ ∧ _ ∧ _ ∧ _ ∧ Order.linesOf _ = _ ∧ _›
    exact Order.linesOf_purchases read

/-- A placement that succeeds takes from each product's stock the units its order holds, then
places the order. -/
theorem placeOrder_spec (c : Checkout) (shipping billing lines : Json) (s₀ : Store) :
    ⦃fun m => ⌜m.store = s₀⌝⦄ placeOrder c shipping billing lines
    ⦃post⟨fun o m => ⌜∃ moved, StockMove s₀ moved (fun id => -OrderItem.unitsOf o.items id) ∧
        Placed moved m.store o⌝, fun _ _ => ⌜True⌝⟩⦄ := by
  mvcgen [placeOrder, reserveAll_spec, settle_spec] invariants
  · post⟨fun _ m => ⌜m.store = s₀⌝, fun _ _ => ⌜True⌝⟩
  all_goals simp_all
  -- what is left: the order stored after the stock was taken holds exactly the merged lines
  rename_i taken m₁ o m₂ _ reserved
  obtain ⟨moved, named⟩ := reserved
  intro placed lines
  refine ⟨m₁.store, moved.congr fun id _ => ?_, placed⟩
  rw [OrderItem.unitsOf_of_forall₂ lines, units_zip_taken named]

theorem checkoutCart_spec (c : Checkout) (s₀ : Store) :
    ⦃fun m => ⌜m.store = s₀⌝⦄ checkoutCart c
    ⦃post⟨fun o m => ⌜∃ moved, StockMove s₀ moved (fun id => -OrderItem.unitsOf o.items id) ∧
        Placed moved m.store o⌝, fun _ _ => ⌜True⌝⟩⦄ := by
  mvcgen [checkoutCart, placeOrder_spec]
  all_goals simp_all

namespace Command

/-- Placing an order from its fields either places it after taking its stock, or fails and
leaves the store as it was. -/
theorem placeOrder_spec (given : Field.Given) (s₀ : Store) :
    ⦃fun m => ⌜m.store = s₀⌝⦄ Command.placeOrder given
    ⦃post⟨fun o m => ⌜∃ moved, StockMove s₀ moved (fun id => -OrderItem.unitsOf o.items id) ∧
        Placed moved m.store o⌝, fun _ m => ⌜m.store = s₀⌝⟩⦄ := by
  mvcgen [Command.placeOrder, Command.checked, unitOfWork_spec, Market.placeOrder_spec]
  all_goals simp_all

/-- Checking out a cart from the command's fields either places its order after taking its
stock, or fails and leaves the store as it was. -/
theorem checkoutCart_spec (given : Field.Given) (s₀ : Store) :
    ⦃fun m => ⌜m.store = s₀⌝⦄ Command.checkoutCart given
    ⦃post⟨fun o m => ⌜∃ moved, StockMove s₀ moved (fun id => -OrderItem.unitsOf o.items id) ∧
        Placed moved m.store o⌝, fun _ m => ⌜m.store = s₀⌝⟩⦄ := by
  mvcgen [Command.checkoutCart, Command.checked, unitOfWork_spec, Market.checkoutCart_spec]
  all_goals simp_all

end Command

/-! ## A sample shop

The witnesses of the theorems about runs start from this shop and place this order: two desk lamps
at 25.00 with a coupon for 5.00 off, so 45.00 to pay. -/

/-- Ten desk lamps of `seller-1` at 25.00. -/
def stockedLamp : Product where
  id := "lamp"
  name := "Desk Lamp"
  price := 25.0
  stock := 10
  version := 0
  sellerId := some "seller-1"
  active := true
  approved := true

/-- A coupon for 5.00 off, good until a day after the clock and for ten uses. -/
def save5 : Coupon where
  id := "coupon-1"
  code := "SAVE5"
  description := none
  kind := .fixedAmount
  value := 5.0
  expiry := Instant.ofSeconds (1794528000 + 86400)
  minimum := 0.0
  active := true
  usageLimit := some 10
  timesUsed := 0

/-- The lamps and the coupon on sale, and no order placed yet. -/
def lampShop : Market where
  store := { products := [stockedLamp], coupons := [save5] }

/-- The fields of an order of two lamps by the customer `c1`, with the coupon. -/
def lampOrder : Field.Given :=
  [("customer_id", .str "c1"),
   ("shipping_address", .str ("\x7b\"street\": \"12 Market Street\", \"city\": \"Springfield\", " ++
     "\"zip_code\": \"62701\", \"country\": \"US\"\x7d")),
   ("items", .str "[\x7b\"product_id\": \"lamp\", \"quantity\": 2\x7d]"),
   ("coupon_code", .str "SAVE5")]

end Market

end Bazaar
