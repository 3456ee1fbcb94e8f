import Mathlib
import Bazaar.Proofs.Order.Terms
import Bazaar.Proofs.Order.Machines
import Bazaar.Proofs.Coupon.Usage

/-!
# Stored orders keep their terms

Once an order is placed, its terms (`Order.Terms`) are never written again: every change of a
stored order writes its statuses, its tracking number, its session or its stock mark. Along any
run of requests and reconciliations every order of the starting store stays stored on its terms
(`Market.orders_keep_terms`), and in its place (`Market.orders_keep_places`): orders are stored in
the order they were placed, and that place stands for the time they were created.

A placed order has passed the rules an order is checked against, and its seller text is the one
built from its lines (`Order.AsPlaced`); both read only its terms. So a property of orders that
placing guarantees and that orders on the same terms share holds of every stored order along any
run once it holds of the starting store (`Market.orders_stay`). In particular no discount exceeds
its total (`Market.orders_stay_ruled`), and every seller text is built from its order's lines
(`Market.sellers_stay_built`).
-/

open Std.Do

set_option mvcgen.warning false

namespace Bazaar

namespace Store

/-- Every stored order passes the rules an order is placed under. -/
def OrdersRuled (s : Store) : Prop :=
  ∀ o ∈ s.orders, o.rules = .ok []

/-- Every stored order's seller text is the one built from its lines. -/
def SellersBuilt (s : Store) : Prop :=
  ∀ o ∈ s.orders, o.sellerRefs = Order.sellerRefsOf o.items

namespace Step

variable {named : String → Prop} {s s' : Store}

/-- Every step carries each numbered order forward on its terms. -/
theorem carries_terms (step : Step named s s') (numbered : s.OrdersNumbered) :
    Carries (fun o o' => o'.terms = o.terms) s s' := by
  cases step with
  | keep orders_eq => exact .of_mem (fun _ => rfl) fun o stored => orders_eq ▸ stored
  | place next _ _ _ orders_eq =>
    refine .of_mem (fun _ => rfl) fun o stored => ?_
    rw [orders_eq, putOrder_orders]
    exact mem_upsert_of_mem stored (next ▸ numbered.next_fresh o stored)
  | change member changed orders_eq =>
    exact .putOrder (fun _ => rfl) numbered.nodup member changed.id_eq changed.terms_eq orders_eq
  | pay member _ _ _ _ orders_eq =>
    exact .putOrder (fun _ => rfl) numbered.nodup member (Order.paid_id _) (Order.paid_terms _)
      orders_eq
  | @fail old _ _ member _ _ _ _ _ orders_eq =>
    exact .putOrder (o := { old with paymentStatus := .failed }) (fun _ => rfl) numbered.nodup
      member rfl rfl orders_eq
  | refund _ _ _ _ orders_eq => exact .of_mem (fun _ => rfl) fun o stored => orders_eq ▸ stored

end Step

/-- What one request or reconciliation does to the terms of the stored orders: nothing, placing
an order as placing leaves it, or writing a stored order back on its terms. -/
inductive TermsStep (s s' : Store) : Prop
  | keep (orders_eq : s'.orders = s.orders)
  | place {o : Order} (placed : o.AsPlaced) (orders_eq : s'.orders = (s.putOrder o).orders)
  | rewrite {old o : Order} (member : old ∈ s.orders) (sameTerms : o.terms = old.terms)
      (orders_eq : s'.orders = (s.putOrder o).orders)

namespace TermsStep

variable {s s' : Store}

/-- A property of orders that placing guarantees and that an order on the terms of another shares
with it holds of every stored order after a step when it did before. -/
theorem forall_of {P : Order → Prop} (placedHolds : ∀ {o : Order}, o.AsPlaced → P o)
    (sameTermsHolds : ∀ {old o : Order}, o.terms = old.terms → P old → P o)
    (step : TermsStep s s') (holds : ∀ o ∈ s.orders, P o) : ∀ o ∈ s'.orders, P o := by
  intro q stored
  cases step with
  | keep orders_eq => exact holds q (orders_eq ▸ stored)
  | @place o placed orders_eq =>
    rw [orders_eq, putOrder_orders] at stored
    rcases mem_upsert stored with rfl | old
    · exact placedHolds placed
    · exact holds q old
  | @rewrite old o member sameTerms orders_eq =>
    rw [orders_eq, putOrder_orders] at stored
    rcases mem_upsert stored with rfl | kept
    · exact sameTermsHolds sameTerms (holds old member)
    · exact holds q kept

/-- A step keeps the stored orders in their places; an order placed comes after them all. -/
theorem places_kept (step : TermsStep s s') : s.orders.map (·.id) <+: s'.orders.map (·.id) := by
  cases step with
  | keep orders_eq => rw [orders_eq]
  | place _ orders_eq =>
    rw [orders_eq, putOrder_orders]
    exact map_key_prefix_upsert _ _
  | rewrite _ _ orders_eq =>
    rw [orders_eq, putOrder_orders]
    exact map_key_prefix_upsert _ _

theorem of_eq (same : s' = s) : TermsStep s s' :=
  .keep (by rw [same])

/-- A change of the carts alone. -/
theorem of_carts (written : { s' with carts := s.carts } = s) : TermsStep s s' := by
  obtain ⟨-, -, orders_eq, -, -⟩ := fields_of_with_carts written
  exact .keep orders_eq

/-- Stock taken, then an order placed as placing leaves it. -/
theorem of_placed {moved : Store} {δ : String → Int} {o : Order} (taken : StockMove s moved δ)
    (placed : Placed moved s' o) (asPlaced : o.AsPlaced) : TermsStep s s' := by
  have orders_eq : s'.orders = (s.putOrder o).orders := by
    simpa [taken.orders_eq] using congrArg Store.orders placed.stored
  exact .place asPlaced orders_eq

/-- A stored order changed, after which a customer may be told. -/
theorem of_told {old o : Order} (member : old ∈ s.orders) (changed : old.Change o)
    (written : { s' with inbox := s.inbox } = s.putOrder o) : TermsStep s s' := by
  obtain ⟨-, -, -, orders_eq, -⟩ := fields_of_with_inbox written
  exact .rewrite member changed.terms_eq orders_eq

/-- A stored order changed, and nothing else. -/
theorem of_written {old o : Order} (member : old ∈ s.orders) (changed : old.Change o)
    (written : s' = s.putOrder o) : TermsStep s s' :=
  .rewrite member changed.terms_eq (by rw [written])

/-- A cancellation: stock given back, then the order written back cancelled. -/
theorem of_cancelled {moved : Store} {δ : String → Int} {old : Order} {target : OrderStatus}
    (member : old ∈ s.orders) (cancellable : old.status.isCancellable = true)
    (cancelling : target.isCancelled = true) (given : StockMove s moved δ)
    (written : { s' with inbox := s.inbox } =
      moved.putOrder { old.cancelledInto target with stockRestored := true }) :
    TermsStep s s' := by
  obtain ⟨-, -, -, orders_eq, -⟩ := fields_of_with_inbox written
  refine .rewrite member (Order.Change.cancel cancellable cancelling).terms_eq ?_
  simpa [given.orders_eq] using orders_eq

/-- A staff status update: nothing, a cancellation, or a step of a stored order. -/
theorem of_updated {old : Order} {target : OrderStatus} (member : old ∈ s.orders)
    (updated : StatusUpdate s s' old target) : TermsStep s s' := by
  cases updated with
  | same _ unchanged => exact .of_eq unchanged
  | cancelled _ cancelling cancellable given written =>
    exact .of_cancelled member cancellable cancelling given written
  | stepped _ notCancelling allowed written =>
    exact .of_told member (.step allowed notCancelling) written

end TermsStep

end Store

namespace Market

open Store

variable {s s' : Store} {r : String}

theorem ConfirmCheckout.termsStep {c : ConfirmCheckout} (effect : c.Effect s r s') :
    TermsStep s s' := by
  obtain duplicate | ⟨-, old, member, -, -, -, -, amount, p, -, written⟩ := effect
  · exact .of_eq duplicate.2
  · have orders_eq := congrArg Store.orders written
    exact .rewrite member (Order.paid_terms old) orders_eq

theorem RecordFailedPayment.termsStep {c : RecordFailedPayment} (effect : c.Effect s r s') :
    TermsStep s s' := by
  obtain unchanged | ⟨-, old, member, -, -, -, -, amount, p, -, written⟩ := effect
  · exact .of_eq unchanged.2
  · have orders_eq := congrArg Store.orders written
    exact .rewrite (o := { old with paymentStatus := .failed }) member rfl orders_eq

theorem RecordChargeRefund.termsStep {c : RecordChargeRefund} (effect : c.Effect s r s') :
    TermsStep s s' := by
  obtain duplicate | ⟨-, old, member, -, -, amount, p, -, written⟩ := effect
  · exact .of_eq duplicate.2
  · exact .keep (by rw [written])

theorem termsStep_of_event {orderId : String} {ev : Webhook.Event}
    (effect : eventEffect orderId ev s r s') : TermsStep s s' := by
  cases ev with
  | checkoutCompleted e =>
    obtain ⟨c, -, effect⟩ := effect
    exact ConfirmCheckout.termsStep effect
  | paymentFailed e =>
    obtain ⟨c, -, effect⟩ := effect
    exact RecordFailedPayment.termsStep effect
  | chargeRefunded e =>
    obtain ⟨c, -, effect⟩ := effect
    exact RecordChargeRefund.termsStep effect
  | unhandled => exact .of_eq effect.2

/-! ## Placed orders are as placing leaves them -/

theorem settle_asPlaced (c : Checkout) (shipping billing : Json) (coupon : Option Coupon)
    (lines : List (Product × Int)) :
    ⦃fun _ => ⌜True⌝⦄ settle c shipping billing coupon lines
    ⦃post⟨fun o _ => ⌜o.AsPlaced⌝, fun _ _ => ⌜True⌝⟩⦄ := by
  have asPlaced := @Order.asPlaced_of_place
  mvcgen [settle, -liftPlace_spec]
  all_goals exact asPlaced ‹_ ∧ Except.ok _ = Order.place _ _›.2.symm

theorem placeOrder_asPlaced (c : Checkout) (shipping billing lines : Json) (s₀ : Store) :
    ⦃fun m => ⌜m.store = s₀⌝⦄ placeOrder c shipping billing lines
    ⦃post⟨fun o _ => ⌜o.AsPlaced⌝, fun _ _ => ⌜True⌝⟩⦄ := by
  mvcgen -trivial [placeOrder, reserveAll_spec, settle_asPlaced] invariants
  · post⟨fun _ m => ⌜m.store = s₀⌝, fun _ _ => ⌜True⌝⟩
  all_goals simp_all

theorem checkoutCart_asPlaced (c : Checkout) (s₀ : Store) :
    ⦃fun m => ⌜m.store = s₀⌝⦄ checkoutCart c
    ⦃post⟨fun o _ => ⌜o.AsPlaced⌝, fun _ _ => ⌜True⌝⟩⦄ := by
  mvcgen -trivial [checkoutCart, placeOrder_asPlaced]
  all_goals simp_all

namespace Command

theorem placeOrder_asPlaced (given : Field.Given) (s₀ : Store) :
    ⦃fun m => ⌜m.store = s₀⌝⦄ Command.placeOrder given
    ⦃post⟨fun o _ => ⌜o.AsPlaced⌝, fun _ m => ⌜m.store = s₀⌝⟩⦄ := by
  mvcgen -trivial [Command.placeOrder, Command.checked, unitOfWork_spec,
    Market.placeOrder_asPlaced]
  all_goals simp_all

theorem checkoutCart_asPlaced (given : Field.Given) (s₀ : Store) :
    ⦃fun m => ⌜m.store = s₀⌝⦄ Command.checkoutCart given
    ⦃post⟨fun o _ => ⌜o.AsPlaced⌝, fun _ m => ⌜m.store = s₀⌝⟩⦄ := by
  mvcgen -trivial [Command.checkoutCart, Command.checked, unitOfWork_spec,
    Market.checkoutCart_asPlaced]
  all_goals simp_all

end Command

/-! ## Every operation takes a terms step -/

/-- Every request takes a terms step, whether it succeeds or fails. -/
theorem request_termsStep (r : Request) (s₀ : Store) :
    ⦃fun m => ⌜m.store = s₀⌝⦄ r.run
    ⦃post⟨fun _ m => ⌜TermsStep s₀ m.store⌝, fun _ m => ⌜TermsStep s₀ m.store⌝⟩⦄ := by
  have unchanged : TermsStep s₀ s₀ := .of_eq rfl
  refine RequestCases.holds
    { start := unchanged
      carts := .of_carts
      placing := ?_
      checkingOut := ?_
      cancelled := ?_
      updated := .of_updated
      tracked := ?_
      session := ?_
      reconciled := termsStep_of_event } r
  · -- the stock facts and what placing guarantees, about the same order
    intro given
    exact holds_of_spec
      (triple_and (Command.placeOrder_spec given s₀) (Command.placeOrder_asPlaced given s₀))
      (by rintro _ _ ⟨⟨_, taken, placed⟩, asPlaced⟩; exact .of_placed taken placed asPlaced)
      unchanged
  · intro given
    exact holds_of_spec
      (triple_and (Command.checkoutCart_spec given s₀) (Command.checkoutCart_asPlaced given s₀))
      (by rintro _ _ ⟨⟨_, taken, placed⟩, asPlaced⟩; exact .of_placed taken placed asPlaced)
      unchanged
  · intro _ _ _ member cancellable given written
    exact .of_cancelled member cancellable rfl given written
  · intro _ _ t member trackable written
    exact .of_told member (.track t trackable) written
  · intro _ _ session member awaiting written
    exact .of_written member (.session session awaiting) written

/-- Every reconciliation takes a terms step, whether it succeeds or fails. -/
theorem reconciliation_termsStep (c : Reconciliation) (s₀ : Store) :
    ⦃fun m => ⌜m.store = s₀⌝⦄ c.run
    ⦃post⟨fun _ m => ⌜TermsStep s₀ m.store⌝, fun _ m => ⌜TermsStep s₀ m.store⌝⟩⦄ := by
  have unchanged : TermsStep s₀ s₀ := .of_eq rfl
  cases c with
  | recordSession orderId sessionId =>
    exact holds_of_spec (recordSession_spec orderId sessionId s₀)
      (fun _ _ ⟨_, member, _, awaiting, session, written⟩ =>
        .of_written member (.session session awaiting) written) unchanged
  | confirmCheckout c =>
    have spec := holds_of_spec (unitOfWork_spec (confirmCheckout_spec c s₀))
      (fun _ _ effect => ConfirmCheckout.termsStep effect) unchanged
    mvcgen [Reconciliation.run, spec]
  | recordFailedPayment c =>
    have spec := holds_of_spec (unitOfWork_spec (recordFailedPayment_spec c s₀))
      (fun _ _ effect => RecordFailedPayment.termsStep effect) unchanged
    mvcgen [Reconciliation.run, spec]
  | recordChargeRefund c =>
    have spec := holds_of_spec (unitOfWork_spec (recordChargeRefund_spec c s₀))
      (fun _ _ effect => RecordChargeRefund.termsStep effect) unchanged
    mvcgen [Reconciliation.run, spec]

theorem termsStep_run (i : Request ⊕ Reconciliation) (m : Market) :
    TermsStep m.store (run (Sum.elim Request.run Reconciliation.run i) m).2.store := by
  cases i with
  | inl r =>
    exact store_of_triple (P := fun m' => m'.store = m.store) rfl (request_termsStep r m.store)
  | inr c =>
    exact store_of_triple (P := fun m' => m'.store = m.store) rfl
      (reconciliation_termsStep c m.store)

/-! ## Runs -/

/-- Along any run of requests and reconciliations from a store whose orders are numbered, every
order stays stored under its identifier on its terms. -/
theorem orders_keep_terms {start m : Market} (numbered : start.store.OrdersNumbered)
    (reached : Reachable (Sum.elim Request.run Reconciliation.run) start m) :
    Carries (fun o o' => o'.terms = o.terms) start.store m.store := by
  induction reached with
  | start => exact .of_mem (fun _ => rfl) fun _ stored => stored
  | @step before i reachedBefore carried =>
    have numberedNow := (orders_carried numbered reachedBefore).1
    have compose : ∀ a b c : Order, b.terms = a.terms → c.terms = b.terms → c.terms = a.terms :=
      fun _ _ _ first second => second.trans first
    cases i with
    | inl r => exact carried.trans ((step_run r before).carries_terms numberedNow) compose
    | inr c =>
      exact carried.trans ((reconciliation_step_run c before).carries_terms numberedNow) compose

/-- Along any run of requests and reconciliations the stored orders keep their places: their
identifiers, in the order they were stored, begin those of every store reached. Orders are listed
newest first by their places, which stand for the times they were created. -/
theorem orders_keep_places {start m : Market}
    (reached : Reachable (Sum.elim Request.run Reconciliation.run) start m) :
    start.store.orders.map (·.id) <+: m.store.orders.map (·.id) := by
  induction reached with
  | start => exact List.prefix_refl _
  | step i _ before => exact before.trans (termsStep_run i _).places_kept

/-- Along any run of requests and reconciliations, a property of orders that placing guarantees
and that orders on the same terms share holds of every stored order once it holds of those of the
starting store. -/
theorem orders_stay {P : Order → Prop} (placedHolds : ∀ {o : Order}, o.AsPlaced → P o)
    (sameTermsHolds : ∀ {old o : Order}, o.terms = old.terms → P old → P o) {start m : Market}
    (holds : ∀ o ∈ start.store.orders, P o)
    (reached : Reachable (Sum.elim Request.run Reconciliation.run) start m) :
    ∀ o ∈ m.store.orders, P o := by
  induction reached with
  | start => exact holds
  | step i _ before => exact (termsStep_run i _).forall_of placedHolds sameTermsHolds before

/-- Along any run of requests and reconciliations from a store whose orders all pass their rules,
they all keep passing them. -/
theorem orders_stay_ruled {start m : Market} (ruled : start.store.OrdersRuled)
    (reached : Reachable (Sum.elim Request.run Reconciliation.run) start m) :
    m.store.OrdersRuled :=
  -- an order written back reads the terms, and so the rules, of the one it replaces
  orders_stay (fun placed => placed.ruled)
    (fun sameTerms ruledBefore => (Order.rules_eq_of_terms sameTerms).trans ruledBefore) ruled
    reached

/-- Along any run of requests and reconciliations from a store whose seller texts are built from
their orders' lines, every stored order's seller text stays built from its lines. -/
theorem sellers_stay_built {start m : Market} (built : start.store.SellersBuilt)
    (reached : Reachable (Sum.elim Request.run Reconciliation.run) start m) :
    m.store.SellersBuilt :=
  orders_stay (fun placed => placed.sellersBuilt)
    (fun sameTerms builtBefore => by
      rw [Order.sellerRefs_eq_of_terms sameTerms, Order.items_eq_of_terms sameTerms]
      exact builtBefore) built reached

end Market

/-- Placing an order fixes its terms. None of the eight actions on an order writes them, whatever
its outcome; along any run of requests and reconciliations from a store of numbered orders, every
order stays stored under its identifier on its terms; and when the orders of the starting store
pass the rules an order is placed under, every order of every store reached passes them, so in
particular its discount never exceeds its total. -/
theorem order_terms_kept :
    (∀ (o o' : Order) (es : List OrderEvent) (amount transactionId : Json) (r : Except Fault Unit),
      OrderAction.run (Order.confirmPayment amount transactionId) o = (r, o', es) →
        o'.terms = o.terms) ∧
    (∀ (o o' : Order) (es : List OrderEvent) (amount transactionId : Json) (r : Except Fault Unit),
      OrderAction.run (Order.recordLatePayment amount transactionId) o = (r, o', es) →
        o'.terms = o.terms) ∧
    (∀ (o o' : Order) (es : List OrderEvent) (reason : Json) (r : Except Fault Unit),
      OrderAction.run (Order.recordPaymentFailure reason) o = (r, o', es) → o'.terms = o.terms) ∧
    (∀ (o o' : Order) (es : List OrderEvent) (target : OrderStatus) (r : Except Fault Bool),
      OrderAction.run (Order.cancel target) o = (r, o', es) → o'.terms = o.terms) ∧
    (∀ (o o' : Order) (es : List OrderEvent) (r : Except Fault Unit),
      OrderAction.run Order.markStockRestored o = (r, o', es) → o'.terms = o.terms) ∧
    (∀ (o o' : Order) (es : List OrderEvent) (target : OrderStatus) (r : Except Fault Bool),
      OrderAction.run (Order.updateStatus target) o = (r, o', es) → o'.terms = o.terms) ∧
    (∀ (o o' : Order) (es : List OrderEvent) (trackingNumber : Json) (r : Except Fault Bool),
      OrderAction.run (Order.addTrackingNumber trackingNumber) o = (r, o', es) →
        o'.terms = o.terms) ∧
    (∀ (o o' : Order) (es : List OrderEvent) (sessionId : Json) (r : Except Fault Unit),
      OrderAction.run (Order.recordCheckoutSession sessionId) o = (r, o', es) →
        o'.terms = o.terms) ∧
    (∀ start m : Market, start.store.OrdersNumbered →
      Market.Reachable (Sum.elim Request.run Reconciliation.run) start m →
      ∀ o ∈ start.store.orders, ∃ o' ∈ m.store.orders, o'.id = o.id ∧ o'.terms = o.terms) ∧
    ∀ start m : Market, (∀ o ∈ start.store.orders, o.rules = .ok []) →
      Market.Reachable (Sum.elim Request.run Reconciliation.run) start m →
      ∀ o ∈ m.store.orders, o.rules = .ok [] ∧ ¬ o.total < o.discount := by
  refine ⟨fun _ _ _ _ _ _ => (Order.confirmPayment_keepsTerms _ _).run,
    fun _ _ _ _ _ _ => (Order.recordLatePayment_keepsTerms _ _).run,
    fun _ _ _ _ _ => (Order.recordPaymentFailure_keepsTerms _).run,
    fun _ _ _ _ _ => (Order.cancel_keepsTerms _).run,
    fun _ _ _ _ => Order.markStockRestored_keepsTerms.run,
    fun _ _ _ _ _ => (Order.updateStatus_keepsTerms _).run,
    fun _ _ _ _ _ => (Order.addTrackingNumber_keepsTerms _).run,
    fun _ _ _ _ _ => (Order.recordCheckoutSession_keepsTerms _).run,
    fun _ _ numbered reached => Market.orders_keep_terms numbered reached, ?_⟩
  intro start m ruled reached o stored
  have ruledNow := Market.orders_stay_ruled ruled reached o stored
  exact ⟨ruledNow, Order.discount_le_total_of_rules ruledNow⟩

namespace Market

/-- The sample shop after its order was placed. -/
def orderedLampShop : Market :=
  (run (Request.placeOrder lampOrder).run lampShop).2

/-- Recording the sample order's checkout session and confirming its payment change the order and
keep its terms. -/
theorem paying_keeps_the_terms :
    let m := (run (Reconciliation.confirmCheckout lampCheckout).run
      (run (Reconciliation.recordSession (Store.orderToken 0) "cs_1").run orderedLampShop).2).2
    orderedLampShop.store.OrdersNumbered ∧
    m.store.orders.map (fun o => (o.paymentStatus, o.checkoutSessionId)) =
      [(.completed, some "cs_1")] ∧
    ∀ o ∈ orderedLampShop.store.orders, ∃ o' ∈ m.store.orders, o'.id = o.id ∧
      o'.terms = o.terms := by
  have facts : orderedLampShop.store.OrdersNumbered ∧
      (run (Reconciliation.confirmCheckout lampCheckout).run
        (run (Reconciliation.recordSession (Store.orderToken 0) "cs_1").run
          orderedLampShop).2).2.store.orders.map (fun o => (o.paymentStatus, o.checkoutSessionId)) =
        [(.completed, some "cs_1")] := by
    unfold Store.OrdersNumbered
    decide +kernel
  exact ⟨facts.1, facts.2, order_terms_kept.2.2.2.2.2.2.2.2.1 _ _ facts.1
    ((Reachable.start.reconcile (.recordSession (Store.orderToken 0) "cs_1")).reconcile
      (.confirmCheckout lampCheckout))⟩

end Market

end Bazaar
