import Mathlib
import Bazaar.Proofs.Market.Requests
import Bazaar.Service.Scenario

/-!
# Coupon uses are counted

A coupon counts its uses. Placing an order with a coupon checks that the coupon has not reached
its usage limit, and stores the coupon with one more use together with the order, which carries
the coupon's identifier; nothing else writes a coupon. Run any requests one after another from a
store whose orders are numbered and whose coupons are within their limits, each request
succeeding or failing. In every market reached, each coupon is one of the start with its uses
counted: its count grew by the number of orders placed with it since the start, and it is still
within its limit, so at most its limit less its starting count of orders were placed with it.
Checking a coupon changes nothing.

The proof follows the one for stock: `Store.CouponStep` sorts what one request can do to the
coupons and to the coupons the orders carry, `Store.CouponsCounted` is the invariant, each kind
of step keeps it, and every request takes one of these steps.
-/

open Std.Do

set_option mvcgen.warning false

namespace Bazaar

namespace Coupon

/-- One more use is refused exactly when the coupon has reached its limit. -/
theorem incrementUsage_eq_ok {c c' : Coupon} :
    c.incrementUsage = .ok c' ↔
      c.limitReached = false ∧ c' = { c with timesUsed := c.timesUsed + 1 } := by
  unfold incrementUsage
  cases c.limitReached <;> simp [@eq_comm Coupon c']

/-- A coupon that has not reached its limit has a use left. -/
theorem lt_of_limitReached_eq_false {c : Coupon} {l : Int} (available : c.limitReached = false)
    (limit : c.usageLimit = some l) : c.timesUsed < l := by
  simp only [limitReached, limit, decide_eq_false_iff_not] at available
  omega

end Coupon

namespace Store

/-- The number of stored orders that carry the coupon `id`. -/
def couponUses (s : Store) (id : String) : Nat :=
  s.orders.countP (·.couponId == some id)

theorem couponUses_of_orders_eq {s s' : Store} (same : s'.orders = s.orders) (id : String) :
    s'.couponUses id = s.couponUses id := by
  simp only [couponUses, same]

/-- A new order adds one use of the coupon it carries. -/
theorem couponUses_putOrder_of_fresh {s : Store} {o : Order} (fresh : ∀ q ∈ s.orders, q.id ≠ o.id)
    (id : String) :
    (s.putOrder o).couponUses id = s.couponUses id + if o.couponId = some id then 1 else 0 := by
  by_cases carried : o.couponId = some id <;>
    simp [couponUses, upsert_of_not_mem fresh, List.countP_append, carried]

/-- Writing a stored order back with the coupon it had changes no coupon's uses, when no two
orders share an identifier. -/
theorem couponUses_putOrder_of_mem {s : Store} {old o : Order}
    (distinct : (s.orders.map (·.id)).Nodup) (member : old ∈ s.orders) (sameId : o.id = old.id)
    (sameCoupon : o.couponId = old.couponId) (id : String) :
    (s.putOrder o).couponUses id = s.couponUses id := by
  have stored : s.orders.any (·.id == o.id) = true :=
    List.any_eq_true.2 ⟨old, member, by simp [sameId]⟩
  simp only [couponUses, putOrder_orders, upsert_of_any stored, List.countP_map]
  apply List.countP_congr
  intro q qMember
  by_cases replaced : q.id = o.id
  · -- the only order under that identifier is `old`, which carried the same coupon
    have same : q = old := List.inj_on_of_nodup_map distinct qMember member (replaced.trans sameId)
    subst same
    simp [sameId, sameCoupon]
  · simp [replaced]

/-- How placing the order `o` uses a coupon of `s`: not at all, or once, for a stored coupon that
had not reached its limit and is written back with one more use. -/
inductive CouponUse (s s' : Store) (o : Order) : Prop
  | unused (unnamed : o.couponId = none) (coupons_eq : s'.coupons = s.coupons)
  | used {c : Coupon} (member : c ∈ s.coupons) (named : o.couponId = some c.id)
      (available : c.limitReached = false)
      (coupons_eq : s'.coupons = upsert Coupon.id { c with timesUsed := c.timesUsed + 1 } s.coupons)

theorem CouponUse.of_coupons_eq {s₁ s₂ s' : Store} {o : Order} (same : s₂.coupons = s₁.coupons)
    (use : CouponUse s₂ s' o) : CouponUse s₁ s' o := by
  cases use with
  | unused unnamed coupons_eq => exact .unused unnamed (coupons_eq.trans same)
  | used member named available coupons_eq =>
    exact .used (same ▸ member) named available (same ▸ coupons_eq)

/-- What one request can do to the coupons and to the coupons the orders carry. -/
inductive CouponStep (s s' : Store) : Prop
  /-- Coupons and orders as they were. -/
  | keep (coupons_eq : s'.coupons = s.coupons) (orders_eq : s'.orders = s.orders)
  /-- An order placed under the next identifier, using at most one coupon once. -/
  | place {o : Order} (numbered : o.id = orderToken s.orders.length)
      (orders_eq : s'.orders = (s.putOrder o).orders) (used : CouponUse s s' o)
  /-- A stored order written back under its identifier, with the coupon it had. -/
  | rewrite {old o : Order} (member : old ∈ s.orders) (sameId : o.id = old.id)
      (sameCoupon : o.couponId = old.couponId) (coupons_eq : s'.coupons = s.coupons)
      (orders_eq : s'.orders = (s.putOrder o).orders)

namespace CouponStep

variable {s s' : Store}

theorem of_eq (same : s' = s) : CouponStep s s' :=
  .keep (by rw [same]) (by rw [same])

/-- A change of the carts alone. -/
theorem of_carts (written : { s' with carts := s.carts } = s) : CouponStep s s' := by
  obtain ⟨-, coupons_eq, orders_eq, -, -⟩ := fields_of_with_carts written
  exact .keep coupons_eq orders_eq

/-- Stock taken, then an order placed with the coupon it uses. -/
theorem of_placed {moved : Store} {δ : String → Int} {o : Order} (taken : StockMove s moved δ)
    (placed : Placed moved s' o) (used : CouponUse s s' o) : CouponStep s s' := by
  have orders_eq : s'.orders = (s.putOrder o).orders := by
    simpa [taken.orders_eq] using congrArg Store.orders placed.stored
  have numbered : o.id = orderToken s.orders.length := by
    rw [placed.numbered, taken.orders_eq]
  exact .place numbered orders_eq used

/-- A stored order written back with the coupon it had, after which a customer may be told. -/
theorem of_told {old o : Order} (member : old ∈ s.orders) (sameId : o.id = old.id)
    (sameCoupon : o.couponId = old.couponId)
    (written : { s' with inbox := s.inbox } = s.putOrder o) : CouponStep s s' := by
  obtain ⟨-, coupons_eq, -, orders_eq, -⟩ := fields_of_with_inbox written
  exact .rewrite member sameId sameCoupon (by simpa using coupons_eq) orders_eq

/-- A cancellation: stock given back, then the order written back cancelled. -/
theorem of_given_back {moved : Store} {δ : String → Int} {old : Order} {target : OrderStatus}
    (member : old ∈ s.orders) (given : StockMove s moved δ)
    (written : { s' with inbox := s.inbox } =
      moved.putOrder { old.cancelledInto target with stockRestored := true }) :
    CouponStep s s' := by
  obtain ⟨-, coupons_eq, -, orders_eq, -⟩ := fields_of_with_inbox written
  refine .rewrite (o := { old.cancelledInto target with stockRestored := true }) member rfl rfl ?_ ?_
  · simpa [given.coupons_eq] using coupons_eq
  · simpa [given.orders_eq] using orders_eq

/-- A staff status update: nothing, a cancellation, or a step of a stored order. -/
theorem of_updated {old : Order} {target : OrderStatus} (member : old ∈ s.orders)
    (updated : StatusUpdate s s' old target) : CouponStep s s' := by
  cases updated with
  | same _ unchanged => exact .of_eq unchanged
  | cancelled _ _ _ given written => exact .of_given_back member given written
  | stepped _ _ _ written => exact .of_told (o := old.steppedTo target) member rfl rfl written

end CouponStep

/-- The coupon invariant of a store reached from `s₀`: the coupons keep their identifiers, each
is a coupon of `s₀` whose count grew by the orders placed with it since, and each is within its
limit. -/
structure CouponsCounted (s₀ s : Store) : Prop where
  numbered : s.OrdersNumbered
  ids_eq : s.coupons.map Coupon.id = s₀.coupons.map Coupon.id
  counted : ∀ c ∈ s.coupons, ∃ c₀ ∈ s₀.coupons, { c with timesUsed := c₀.timesUsed } = c₀ ∧
    c.timesUsed + s₀.couponUses c.id = c₀.timesUsed + s.couponUses c.id
  within : ∀ c ∈ s.coupons, ∀ l, c.usageLimit = some l → c.timesUsed ≤ l

theorem CouponsCounted.start {s₀ : Store} (numbered : s₀.OrdersNumbered)
    (within : ∀ c ∈ s₀.coupons, ∀ l, c.usageLimit = some l → c.timesUsed ≤ l) :
    CouponsCounted s₀ s₀ where
  numbered := numbered
  ids_eq := rfl
  counted c member := ⟨c, member, rfl, rfl⟩
  within := within

section Steps

variable {s₀ s s' : Store}

/-- Coupons as they were, and orders that carry each coupon as often as before. -/
theorem CouponsCounted.of_uses_eq (inv : CouponsCounted s₀ s) (numbered : s'.OrdersNumbered)
    (coupons_eq : s'.coupons = s.coupons) (uses_eq : ∀ id, s'.couponUses id = s.couponUses id) :
    CouponsCounted s₀ s' where
  numbered := numbered
  ids_eq := coupons_eq ▸ inv.ids_eq
  counted c member := by
    obtain ⟨c₀, member₀, restored, balanced⟩ := inv.counted c (coupons_eq ▸ member)
    exact ⟨c₀, member₀, restored, by rw [uses_eq]; exact balanced⟩
  within := coupons_eq ▸ inv.within

/-- An order placed with one more use of a coupon that had a use left. -/
theorem CouponsCounted.use {c : Coupon} (inv : CouponsCounted s₀ s)
    (numbered : s'.OrdersNumbered) (member : c ∈ s.coupons) (available : c.limitReached = false)
    (coupons_eq : s'.coupons = upsert Coupon.id { c with timesUsed := c.timesUsed + 1 } s.coupons)
    (uses : ∀ id, s'.couponUses id = s.couponUses id + if some c.id = some id then 1 else 0) :
    CouponsCounted s₀ s' := by
  have stored : s.coupons.any (·.id == c.id) = true :=
    List.any_eq_true.2 ⟨c, member, by simp⟩
  refine ⟨numbered, ?_, ?_, ?_⟩
  · rw [coupons_eq]
    exact (map_key_upsert_of_any (x := { c with timesUsed := c.timesUsed + 1 }) stored).trans
      inv.ids_eq
  · intro c' member'
    rw [coupons_eq] at member'
    by_cases bumped : c' = { c with timesUsed := c.timesUsed + 1 }
    · -- the coupon used: one more use, and one more order that carries it
      obtain ⟨c₀, member₀, restored, balanced⟩ := inv.counted c member
      subst bumped
      refine ⟨c₀, member₀, restored, ?_⟩
      simp only [uses, if_true]
      push_cast
      omega
    · -- another coupon: neither its count nor its orders changed
      obtain ⟨kept, other⟩ := mem_upsert_of_ne member' bumped
      obtain ⟨c₀, member₀, restored, balanced⟩ := inv.counted c' kept
      refine ⟨c₀, member₀, restored, ?_⟩
      simpa [uses, Ne.symm other] using balanced
  · intro c' member' l limit
    rw [coupons_eq] at member'
    by_cases bumped : c' = { c with timesUsed := c.timesUsed + 1 }
    · subst bumped
      have := Coupon.lt_of_limitReached_eq_false available limit
      simp only
      omega
    · exact inv.within c' (mem_upsert_of_ne member' bumped).1 l limit

theorem CouponsCounted.place {o : Order} (inv : CouponsCounted s₀ s)
    (numbered : o.id = orderToken s.orders.length) (orders_eq : s'.orders = (s.putOrder o).orders)
    (used : CouponUse s s' o) : CouponsCounted s₀ s' := by
  have fresh : ∀ q ∈ s.orders, q.id ≠ o.id := numbered ▸ inv.numbered.next_fresh
  have numbered' : s'.OrdersNumbered :=
    ordersNumbered_of_orders_eq orders_eq (inv.numbered.putOrder_next numbered)
  have uses (id : String) :
      s'.couponUses id = s.couponUses id + if o.couponId = some id then 1 else 0 := by
    rw [couponUses_of_orders_eq orders_eq, couponUses_putOrder_of_fresh fresh]
  cases used with
  | unused unnamed coupons_eq => exact inv.of_uses_eq numbered' coupons_eq (by simp [uses, unnamed])
  | used member named available coupons_eq =>
    exact inv.use numbered' member available coupons_eq (by simpa [named] using uses)

theorem CouponsCounted.rewrite {old o : Order} (inv : CouponsCounted s₀ s)
    (member : old ∈ s.orders) (sameId : o.id = old.id) (sameCoupon : o.couponId = old.couponId)
    (coupons_eq : s'.coupons = s.coupons) (orders_eq : s'.orders = (s.putOrder o).orders) :
    CouponsCounted s₀ s' :=
  inv.of_uses_eq (ordersNumbered_of_orders_eq orders_eq (inv.numbered.putOrder_of_mem member sameId))
    coupons_eq fun id => by
      rw [couponUses_of_orders_eq orders_eq,
        couponUses_putOrder_of_mem inv.numbered.nodup member sameId sameCoupon]

/-- Every kind of step keeps the invariant. -/
theorem CouponsCounted.step (inv : CouponsCounted s₀ s) (step : CouponStep s s') :
    CouponsCounted s₀ s' := by
  cases step with
  | keep coupons_eq orders_eq =>
    exact inv.of_uses_eq (ordersNumbered_of_orders_eq orders_eq inv.numbered) coupons_eq
      (couponUses_of_orders_eq orders_eq)
  | place numbered orders_eq used => exact inv.place numbered orders_eq used
  | rewrite member sameId sameCoupon coupons_eq orders_eq =>
    exact inv.rewrite member sameId sameCoupon coupons_eq orders_eq

end Steps

end Store

namespace Market

open Store

/-- Two specifications of one operation with the same precondition and the same promise on
failure give the results of both. -/
theorem triple_and {act : MarketM α} {P : Market → Prop} {Q₁ Q₂ : α → Market → Prop}
    {E : Fault → Market → Prop}
    (first : ⦃fun m => ⌜P m⌝⦄ act ⦃post⟨fun a m => ⌜Q₁ a m⌝, fun e m => ⌜E e m⌝⟩⦄)
    (second : ⦃fun m => ⌜P m⌝⦄ act ⦃post⟨fun a m => ⌜Q₂ a m⌝, fun e m => ⌜E e m⌝⟩⦄) :
    ⦃fun m => ⌜P m⌝⦄ act ⦃post⟨fun a m => ⌜Q₁ a m ∧ Q₂ a m⌝, fun e m => ⌜E e m⌝⟩⦄ := by
  intro m holds
  have both := Triple.and act first second m ⟨holds, holds⟩
  simpa [PostCond.and, SPred.and, ExceptConds.and, SPred.pure] using both

/-- Settling places an order that carries the coupon it was given, if any, and uses that coupon
once. -/
theorem settle_couponUse (c : Checkout) (shipping billing : Json) (coupon : Option Coupon)
    (lines : List (Product × Int)) (s₀ : Store) :
    ⦃fun m => ⌜m.store = s₀ ∧ ∀ cp, coupon = some cp → cp ∈ s₀.coupons⌝⦄
    settle c shipping billing coupon lines
    ⦃post⟨fun o m => ⌜CouponUse s₀ m.store o⌝, fun _ _ => ⌜True⌝⟩⦄ := by
  mvcgen [settle]
  case vc2 =>
    -- no coupon: the order names none, and only the order is written
    rename_i _ atStart _ _ noCoupon _ same _ _ settings _ _ _ issued _ _ _ _ _ _ placed _ _ stored
    obtain ⟨rfl, -⟩ := settings
    obtain ⟨rfl, -⟩ := issued
    obtain ⟨rfl, -, -, -, -, -, unnamed⟩ := placed
    subst stored same
    rw [← atStart.1]
    exact .unused (by simpa +zetaDelta [noCoupon, Json.isNull] using unnamed) (putOrder_coupons _ _)
  case vc5 =>
    -- a coupon: the order names it, and it is written back with one more use
    rename_i cp given _ placed _ _ incremented _ _ couponWritten _ _ stored
    obtain ⟨available, rfl⟩ := Coupon.incrementUsage_eq_ok.1 incremented.2.symm
    obtain ⟨placedFrom, -, -, -, -, -, named⟩ := placed
    refine .used ?member (by simpa +zetaDelta [given, Json.isNull, Json.display] using named)
      available ?coupons
    -- the coupon given is stored, and nothing before the writes changed the store
    all_goals simp_all
  -- a coupon both given and not given
  all_goals simp_all

/-- A placement that succeeds uses the coupon its checkout names, if any, once. -/
theorem placeOrder_couponUse (c : Checkout) (shipping billing lines : Json) (s₀ : Store) :
    ⦃fun m => ⌜m.store = s₀⌝⦄ placeOrder c shipping billing lines
    ⦃post⟨fun o m => ⌜CouponUse s₀ m.store o⌝, fun _ _ => ⌜True⌝⟩⦄ := by
  mvcgen [placeOrder, reserveAll_spec, settle_couponUse] invariants
  · post⟨fun _ m => ⌜m.store = s₀⌝, fun _ _ => ⌜True⌝⟩
  all_goals simp_all
  -- taking stock leaves the coupons: the coupon found is still stored when the order is settled
  · rename_i found reserved
    rw [reserved.1.coupons_eq]
    exact found.2
  · rename_i found reserved
    exact CouponUse.of_coupons_eq reserved.1.coupons_eq

theorem checkoutCart_couponUse (c : Checkout) (s₀ : Store) :
    ⦃fun m => ⌜m.store = s₀⌝⦄ checkoutCart c
    ⦃post⟨fun o m => ⌜CouponUse s₀ m.store o⌝, fun _ _ => ⌜True⌝⟩⦄ := by
  mvcgen [checkoutCart, placeOrder_couponUse]
  all_goals simp_all

namespace Command

/-- Placing an order from its fields uses the coupon it names, if any, once, or fails and leaves
the store as it was. -/
theorem placeOrder_couponUse (given : Field.Given) (s₀ : Store) :
    ⦃fun m => ⌜m.store = s₀⌝⦄ Command.placeOrder given
    ⦃post⟨fun o m => ⌜CouponUse s₀ m.store o⌝, fun _ m => ⌜m.store = s₀⌝⟩⦄ := by
  mvcgen [Command.placeOrder, Command.checked, unitOfWork_spec, Market.placeOrder_couponUse]
  all_goals simp_all

/-- Checking out a cart from the command's fields uses the coupon it names, if any, once, or
fails and leaves the store as it was. -/
theorem checkoutCart_couponUse (given : Field.Given) (s₀ : Store) :
    ⦃fun m => ⌜m.store = s₀⌝⦄ Command.checkoutCart given
    ⦃post⟨fun o m => ⌜CouponUse s₀ m.store o⌝, fun _ m => ⌜m.store = s₀⌝⟩⦄ := by
  mvcgen [Command.checkoutCart, Command.checked, unitOfWork_spec, Market.checkoutCart_couponUse]
  all_goals simp_all

end Command

/-- A reconciled event pays an order or fails its payment, keeping the coupon it carries, or adds
a record; no coupon is written. -/
theorem couponStep_of_event {orderId : String} {ev : Webhook.Event} {s s' : Store}
    {status : String} (effect : eventEffect orderId ev s status s') : CouponStep s s' := by
  cases ev with
  | checkoutCompleted e =>
    obtain ⟨c, -, duplicate | processed⟩ := effect
    · exact .of_eq duplicate.2
    · obtain ⟨-, old, member, -, -, -, -, amount, p, -, written⟩ := processed
      have coupons_eq := congrArg Store.coupons written
      have orders_eq := congrArg Store.orders written
      exact .rewrite member (Order.paid_id old) (Order.paid_couponId old)
        (by simpa using coupons_eq) orders_eq
  | paymentFailed e =>
    obtain ⟨c, -, unchanged | processed⟩ := effect
    · exact .of_eq unchanged.2
    · obtain ⟨-, old, member, -, -, -, -, amount, p, -, written⟩ := processed
      have coupons_eq := congrArg Store.coupons written
      have orders_eq := congrArg Store.orders written
      exact .rewrite (o := { old with paymentStatus := .failed }) member rfl rfl
        (by simpa using coupons_eq) orders_eq
  | chargeRefunded e =>
    obtain ⟨c, -, duplicate | processed⟩ := effect
    · exact .of_eq duplicate.2
    · obtain ⟨-, old, member, -, -, amount, p, -, written⟩ := processed
      exact .keep (by rw [written]) (by rw [written])
  | unhandled => exact .of_eq effect.2

/-- Every request takes one of the kinds of coupon steps, whether it succeeds or fails. -/
theorem request_couponStep (r : Request) (s₀ : Store) :
    ⦃fun m => ⌜m.store = s₀⌝⦄ r.run
    ⦃post⟨fun _ m => ⌜CouponStep s₀ m.store⌝, fun _ m => ⌜CouponStep s₀ m.store⌝⟩⦄ := by
  have unchanged : CouponStep s₀ s₀ := .of_eq rfl
  refine RequestCases.holds
    { start := unchanged
      carts := .of_carts
      placing := ?_
      checkingOut := ?_
      cancelled := ?_
      updated := .of_updated
      tracked := ?_
      session := ?_
      reconciled := couponStep_of_event } r
  · -- the stock facts and the coupon facts of one placement, about the same order
    intro given
    exact holds_of_spec
      (triple_and (Command.placeOrder_spec given s₀) (Command.placeOrder_couponUse given s₀))
      (by rintro _ _ ⟨⟨_, taken, placed⟩, used⟩; exact .of_placed taken placed used) unchanged
  · intro given
    exact holds_of_spec
      (triple_and (Command.checkoutCart_spec given s₀) (Command.checkoutCart_couponUse given s₀))
      (by rintro _ _ ⟨⟨_, taken, placed⟩, used⟩; exact .of_placed taken placed used) unchanged
  · intro _ _ _ member _ given written
    exact .of_given_back member given written
  · intro _ old t member _ written
    exact .of_told (o := { old with
      trackingNumber := some t
      status := if old.status = .processing then .shipped else old.status })
      member rfl rfl written
  · intro _ old session member _ written
    exact .rewrite (o := { old with checkoutSessionId := session }) member rfl rfl
      (by rw [written]; simp) (by rw [written])

/-- Running a request from any market takes a coupon step from its store. -/
theorem couponStep_run (r : Request) (m : Market) : CouponStep m.store (run r.run m).2.store :=
  store_of_triple (P := fun m' => m'.store = m.store) rfl (request_couponStep r m.store)

/-- Every market reached by requests from a store with numbered orders and coupons within their
limits keeps the coupon invariant. -/
theorem couponsCounted_of_reachable {start m : Market} (numbered : start.store.OrdersNumbered)
    (within : ∀ c ∈ start.store.coupons, ∀ l, c.usageLimit = some l → c.timesUsed ≤ l)
    (reached : Reachable Request.run start m) : CouponsCounted start.store m.store := by
  induction reached with
  | start => exact .start numbered within
  | step r _ ih => exact ih.step (couponStep_run r _)

end Market

namespace Service

/-- Checking a coupon reads the store and evaluates the coupon found; it changes nothing, whether
it answers or fails. -/
theorem checkCoupon_spec (st : Json) (m₀ : Market) :
    ⦃fun m => ⌜m = m₀⌝⦄ setupStep "check_coupon" st
    ⦃post⟨fun _ m => ⌜m = m₀⌝, fun _ m => ⌜m = m₀⌝⟩⦄ := by
  mvcgen [setupStep, couponByCode]
  all_goals simp_all

end Service

namespace Market

open Store

/-- Coupon uses are counted. In every market reached by requests from a store whose orders are
numbered and whose coupons are within their limits, the coupons keep their identifiers, and each
is a coupon of the start, changed only in its count, which grew by exactly the number of orders
placed with it since. It stays within its limit, so no more orders were placed with it than its
limit less its starting count. Checking a coupon there changes nothing. -/
theorem coupon_uses_counted {start m : Market} (numbered : start.store.OrdersNumbered)
    (within : ∀ c ∈ start.store.coupons, ∀ l, c.usageLimit = some l → c.timesUsed ≤ l)
    (reached : Reachable Request.run start m) :
    m.store.coupons.map Coupon.id = start.store.coupons.map Coupon.id ∧
    (∀ c ∈ m.store.coupons, ∃ c₀ ∈ start.store.coupons,
      { c with timesUsed := c₀.timesUsed } = c₀ ∧
      c.timesUsed + start.store.couponUses c.id = c₀.timesUsed + m.store.couponUses c.id ∧
      ∀ l, c.usageLimit = some l → c.timesUsed ≤ l ∧
        (m.store.couponUses c.id : Int) - start.store.couponUses c.id ≤ l - c₀.timesUsed) ∧
    ∀ st, (run (Service.setupStep "check_coupon" st) m).2 = m := by
  have inv := couponsCounted_of_reachable numbered within reached
  refine ⟨inv.ids_eq, fun c member => ?_, fun st => ?_⟩
  · obtain ⟨c₀, member₀, restored, balanced⟩ := inv.counted c member
    refine ⟨c₀, member₀, restored, balanced, fun l limit => ?_⟩
    have bounded := inv.within c member l limit
    exact ⟨bounded, by omega⟩
  · exact store_of_triple (P := (· = m)) rfl (Service.checkCoupon_spec st m)

/-- Placing the sample order uses its coupon once: the coupon counts one use and one order holds
it, so the count and the orders still agree. -/
theorem coupon_uses_counted_after_placing :
    let m := (run (Request.placeOrder lampOrder).run lampShop).2
    lampShop.store.OrdersNumbered ∧
    (∀ c ∈ lampShop.store.coupons, ∀ l, c.usageLimit = some l → c.timesUsed ≤ l) ∧
    (m.store.coupons.map Coupon.timesUsed = [1] ∧ m.store.couponUses "coupon-1" = 1) ∧
    m.store.coupons.map Coupon.id = lampShop.store.coupons.map Coupon.id ∧
    (∀ c ∈ m.store.coupons, ∃ c₀ ∈ lampShop.store.coupons,
      { c with timesUsed := c₀.timesUsed } = c₀ ∧
      c.timesUsed + lampShop.store.couponUses c.id = c₀.timesUsed + m.store.couponUses c.id ∧
      ∀ l, c.usageLimit = some l → c.timesUsed ≤ l ∧
        (m.store.couponUses c.id : Int) - lampShop.store.couponUses c.id ≤ l - c₀.timesUsed) ∧
    ∀ st, (run (Service.setupStep "check_coupon" st) m).2 = m := by
  have numbered : lampShop.store.OrdersNumbered := ordersNumbered_of_orders_nil rfl
  have within : ∀ c ∈ lampShop.store.coupons, ∀ l, c.usageLimit = some l → c.timesUsed ≤ l := by
    simp [lampShop, save5]
  have used : (run (Request.placeOrder lampOrder).run lampShop).2.store.coupons.map
        Coupon.timesUsed = [1] ∧
      (run (Request.placeOrder lampOrder).run lampShop).2.store.couponUses "coupon-1" = 1 := by
    decide +kernel
  exact ⟨numbered, within, used,
    coupon_uses_counted numbered within (.step (Request.placeOrder lampOrder) .start)⟩

end Market

end Bazaar
