import Mathlib
import Bazaar.Proofs.Cart.Lines
import Bazaar.Proofs.Market.Steps

/-!
# Carts stay well formed, and cart commands are atomic

The cart commands find the customer's cart, or make an empty one, and write it back with its lines
changed: adding to a line raises it, setting a line replaces its quantity, removing a line drops
it, and emptying the cart drops them all. Adding and setting check the catalogue first: the product
must be on sale and its stock must cover the line's new quantity. A paid order empties its
customer's cart. Every other operation leaves the carts alone. So along any run of operations the
carts stay well formed (`Market.carts_stay_wellFormed`): one per customer, one line per product,
each of at least one unit.

A cart command runs in a unit of work, so one that fails leaves the store as it was, the cart made
for it included; and none of them writes a product (`cart_commands_sound`).
-/

open Std.Do

set_option mvcgen.warning false

namespace Bazaar

namespace Field

/-- An identifier is read as the value's display text. -/
theorem identifier_eq_ok {least : Nat} {v : Json} {s : String}
    (read : identifier least v = .ok s) : s = v.display := by
  cases v
  case null => cases read
  all_goals
    unfold identifier at read
    exact eq_of_text read

end Field

namespace Store

variable {s s' : Store}

theorem StockMove.carts_eq {δ : String → Int} (move : StockMove s s' δ) : s'.carts = s.carts := by
  rw [move.frame]

theorem Placed.carts_eq {o : Order} (placed : Placed s s' o) : s'.carts = s.carts := by
  simpa using congrArg Store.carts placed.stored

theorem carts_eq_of_told {o : Order} (written : { s' with inbox := s.inbox } = s.putOrder o) :
    s'.carts = s.carts := by
  simpa using congrArg Store.carts written

theorem carts_eq_of_cancelled {moved : Store} {δ : String → Int} {o : Order}
    (given : StockMove s moved δ) (written : { s' with inbox := s.inbox } = moved.putOrder o) :
    s'.carts = s.carts := by
  simpa [given.carts_eq] using congrArg Store.carts written

/-- A staff status update: nothing, a cancellation, or a step of a stored order, none of which
touches the carts. -/
theorem carts_eq_of_updated {old : Order} {target : OrderStatus}
    (updated : StatusUpdate s s' old target) : s'.carts = s.carts := by
  cases updated with
  | same _ unchanged => rw [unchanged]
  | cancelled _ _ _ given written => exact carts_eq_of_cancelled given written
  | stepped _ _ _ written => exact carts_eq_of_told written

end Store

namespace Market

open Store

/-! ## The cart commands -/

/-- Finding or making the customer's cart: it is stored, under the customer's display text, with
the customer's quantities; only the carts are written, and they stay well formed. -/
theorem cartFor_kept (customer : Json) (s₀ : Store) :
    ⦃fun m => ⌜m.store = s₀⌝⦄ cartFor customer
    ⦃post⟨fun c m => ⌜{ m.store with carts := s₀.carts } = s₀ ∧ c.customerId = customer.display ∧
        (CartsWellFormed s₀.carts → CartsWellFormed m.store.carts ∧ c ∈ m.store.carts ∧
          ∀ p, c.quantityOf p = s₀.quantityInCart customer.display p)⌝,
      fun _ _ => ⌜True⌝⟩⦄ := by
  mvcgen [cartFor, -cartFor_spec]
  case vc1 =>
    -- the customer has a cart: it is returned, and nothing is written
    rename_i m atStart _ c _ m' looked
    obtain ⟨rfl, found⟩ := looked
    subst atStart
    refine ⟨rfl, by simpa using List.find?_some found,
      fun wf => ⟨wf, List.mem_of_find?_eq_some found, fun p => (quantityInCart_of_find? found p).symm⟩⟩
  case vc2 =>
    -- no cart yet: an empty one is made under the customer's identifier, and stored
    rename_i m atStart _ _ _ customerId read m' looked token c m₂ issued _ m₃ stored
    obtain ⟨rfl, none⟩ := looked
    obtain ⟨rfl, -⟩ := issued
    have named := Field.identifier_eq_ok read
    subst atStart stored named
    have absent : ∀ d ∈ m'.store.carts, d.customerId ≠ customer.display := by
      simpa [List.find?_eq_none] using none
    refine ⟨by simp, rfl, fun wf => ⟨?_, ?_, fun p => ?_⟩⟩
    · simpa using wf.upsert_new absent rfl
    · simpa using mem_upsert_self c m'.store.carts
    · simp +zetaDelta [quantityInCart_of_find?_none none, Cart.quantityOf]

/-- The catalogue check passes only for a stored product whose stock covers the quantity. -/
theorem ensureCanHold_admits (productId : String) (quantity : Int) (m₀ : Market) :
    ⦃fun m => ⌜m = m₀⌝⦄ ensureCanHold productId quantity
    ⦃post⟨fun _ m => ⌜m = m₀ ∧ ∃ p, m₀.store.products.find? (·.id == productId) = some p ∧
        quantity ≤ p.stock⌝,
      fun _ m => ⌜m = m₀⌝⟩⦄ := by
  mvcgen [ensureCanHold, -ensureCanHold_spec, available, -available_spec]
  all_goals simp_all

/-- Adding to a cart raises the customer's quantity by what was added, which the product's stock
covers. -/
theorem addToCart_effect (customerId productId : String) (quantity : Int) (s₀ : Store) :
    ⦃fun m => ⌜m.store = s₀⌝⦄ addToCart customerId productId quantity
    ⦃post⟨fun _ m => ⌜CartsWellFormed s₀.carts → CartsWellFormed m.store.carts ∧
        m.store.quantityInCart customerId productId =
          s₀.quantityInCart customerId productId + quantity ∧
        ∃ p, s₀.products.find? (·.id == productId) = some p ∧
          s₀.quantityInCart customerId productId + quantity ≤ p.stock⌝,
      fun _ _ => ⌜True⌝⟩⦄ := by
  have found := cartFor_kept
  have covered := ensureCanHold_admits
  mvcgen [addToCart, -cartFor_spec, found, -ensureCanHold_spec, covered]
  simp only [Json.display] at *
  rename_i m₀ atStart c m₁ found _ m₂ covered c' m₃ lifted _ m₄
  intro written wf₀
  obtain ⟨frame, owner, kept⟩ := found
  obtain ⟨same₂, p, stocked, covered⟩ := covered
  obtain ⟨same₃, lifted⟩ := lifted
  subst atStart same₂ same₃ written
  obtain ⟨wf₁, member, quantities⟩ := kept wf₀
  obtain ⟨wf₂, raised⟩ := addItem_written wf₁ member lifted.symm
  obtain ⟨products_eq, -⟩ := fields_of_with_carts frame
  rw [owner, quantities] at raised
  rw [quantities] at covered
  exact ⟨wf₂, raised, p, products_eq ▸ stocked, covered⟩

/-- Setting a line sets the customer's quantity, which the product's stock covers. -/
theorem updateCartItem_effect (customerId productId : String) (quantity : Int) (s₀ : Store) :
    ⦃fun m => ⌜m.store = s₀⌝⦄ updateCartItem customerId productId quantity
    ⦃post⟨fun _ m => ⌜CartsWellFormed s₀.carts → CartsWellFormed m.store.carts ∧
        m.store.quantityInCart customerId productId = quantity ∧
        ∃ p, s₀.products.find? (·.id == productId) = some p ∧ quantity ≤ p.stock⌝,
      fun _ _ => ⌜True⌝⟩⦄ := by
  have found := cartFor_kept
  have covered := ensureCanHold_admits
  mvcgen [updateCartItem, -cartFor_spec, found, -ensureCanHold_spec, covered]
  simp only [Json.display] at *
  rename_i m₀ atStart c m₁ found c' m₂ lifted _ m₃ covered _ m₄
  intro written wf₀
  obtain ⟨frame, owner, kept⟩ := found
  obtain ⟨same₂, lifted⟩ := lifted
  obtain ⟨same₃, p, stocked, covered⟩ := covered
  subst atStart same₂ same₃ written
  obtain ⟨wf₁, member, -⟩ := kept wf₀
  obtain ⟨wf₂, set⟩ := updateQuantity_written wf₁ member lifted.symm
  obtain ⟨products_eq, -⟩ := fields_of_with_carts frame
  rw [owner] at set
  exact ⟨wf₂, set, p, products_eq ▸ stocked, covered⟩

theorem removeFromCart_kept (customerId productId : String) (s₀ : Store) :
    ⦃fun m => ⌜m.store = s₀⌝⦄ removeFromCart customerId productId
    ⦃post⟨fun _ m => ⌜CartsWellFormed s₀.carts → CartsWellFormed m.store.carts⌝,
      fun _ _ => ⌜True⌝⟩⦄ := by
  have found := cartFor_kept
  mvcgen [removeFromCart, -cartFor_spec, found]
  rename_i m₀ atStart c m₁ found c' m₂ lifted _ m₃
  intro written wf₀
  obtain ⟨-, -, kept⟩ := found
  obtain ⟨same₂, lifted⟩ := lifted
  subst atStart same₂ written
  obtain ⟨wf₁, member, -⟩ := kept wf₀
  exact removeItem_written wf₁ member lifted.symm

theorem clearCart_kept (customerId : String) (s₀ : Store) :
    ⦃fun m => ⌜m.store = s₀⌝⦄ clearCart customerId
    ⦃post⟨fun _ m => ⌜CartsWellFormed s₀.carts → CartsWellFormed m.store.carts⌝,
      fun _ _ => ⌜True⌝⟩⦄ := by
  have found := cartFor_kept
  mvcgen [clearCart, -cartFor_spec, found]
  rename_i m₀ atStart c m₁ found _ m₂ written
  intro wf₀
  obtain ⟨-, -, kept⟩ := found
  subst atStart written
  obtain ⟨wf₁, member, -⟩ := kept wf₀
  exact clear_written wf₁ member

namespace Command

theorem addToCart_kept (given : Field.Given) (s₀ : Store) :
    ⦃fun m => ⌜m.store = s₀⌝⦄ Command.addToCart given
    ⦃post⟨fun _ m => ⌜CartsWellFormed s₀.carts → CartsWellFormed m.store.carts⌝,
      fun _ m => ⌜m.store = s₀⌝⟩⦄ := by
  have effect := Market.addToCart_effect
  mvcgen [Command.addToCart, Command.checked, unitOfWork_spec, effect]
  all_goals simp_all

theorem updateCartItem_kept (given : Field.Given) (s₀ : Store) :
    ⦃fun m => ⌜m.store = s₀⌝⦄ Command.updateCartItem given
    ⦃post⟨fun _ m => ⌜CartsWellFormed s₀.carts → CartsWellFormed m.store.carts⌝,
      fun _ m => ⌜m.store = s₀⌝⟩⦄ := by
  have effect := Market.updateCartItem_effect
  mvcgen [Command.updateCartItem, Command.checked, unitOfWork_spec, effect]
  all_goals simp_all

theorem removeFromCart_kept (given : Field.Given) (s₀ : Store) :
    ⦃fun m => ⌜m.store = s₀⌝⦄ Command.removeFromCart given
    ⦃post⟨fun _ m => ⌜CartsWellFormed s₀.carts → CartsWellFormed m.store.carts⌝,
      fun _ m => ⌜m.store = s₀⌝⟩⦄ := by
  have effect := Market.removeFromCart_kept
  mvcgen [Command.removeFromCart, Command.checked, unitOfWork_spec, effect]
  all_goals simp_all

theorem clearCart_kept (given : Field.Given) (s₀ : Store) :
    ⦃fun m => ⌜m.store = s₀⌝⦄ Command.clearCart given
    ⦃post⟨fun _ m => ⌜CartsWellFormed s₀.carts → CartsWellFormed m.store.carts⌝,
      fun _ m => ⌜m.store = s₀⌝⟩⦄ := by
  have effect := Market.clearCart_kept
  mvcgen [Command.clearCart, Command.checked, unitOfWork_spec, effect]
  all_goals simp_all

end Command

/-! ## Emptying a paid order's cart -/

theorem clearCartAfterPayment_kept (customerId : String) (m₀ : Market) :
    ⦃fun m => ⌜m = m₀⌝⦄ clearCartAfterPayment customerId
    ⦃⇓ _ m => ⌜CartsWellFormed m₀.store.carts → CartsWellFormed m.store.carts⌝⦄ := by
  mvcgen [clearCartAfterPayment, -clearCartAfterPayment_spec]
  case vc1 =>
    -- a cart with lines: it is emptied and written back
    rename_i m atStart _ c _ _ m' looked _ m''
    obtain ⟨rfl, found⟩ := looked
    subst atStart
    rintro rfl wf
    simpa using clear_written wf (List.mem_of_find?_eq_some found)
  -- no cart, or an empty one: nothing is written
  all_goals simp_all

/-- Confirming a checkout writes the order and its record, and may empty the customer's cart. -/
theorem confirmCheckout_kept (c : ConfirmCheckout) (s₀ : Store) :
    ⦃fun m => ⌜m.store = s₀⌝⦄ confirmCheckout c
    ⦃post⟨fun _ m => ⌜CartsWellFormed s₀.carts → CartsWellFormed m.store.carts⌝,
      fun _ _ => ⌜True⌝⟩⦄ := by
  unfold confirmCheckout
  generalize Money.roundFloat = roundPrice
  have cleared := clearCartAfterPayment_kept
  mvcgen [-clearCartAfterPayment_spec, cleared]
  case vc3 =>
    -- the cart was emptied, then the customer told, which writes only the inbox
    rename_i emptied _ m told
    obtain ⟨inbox, notifier, rfl⟩ := told
    intro wf
    apply emptied
    -- before, the order and its payment were written, and no cart
    simp_all
  -- the other paths leave the carts alone
  all_goals simp_all

theorem RecordFailedPayment.carts_eq {c : RecordFailedPayment} {s s' : Store} {r : String}
    (effect : c.Effect s r s') : s'.carts = s.carts := by
  obtain unchanged | ⟨-, old, -, -, -, -, -, amount, p, -, written⟩ := effect
  · rw [unchanged.2]
  · simpa using congrArg Store.carts written

theorem RecordChargeRefund.carts_eq {c : RecordChargeRefund} {s s' : Store} {r : String}
    (effect : c.Effect s r s') : s'.carts = s.carts := by
  obtain duplicate | ⟨-, old, -, -, -, amount, p, -, written⟩ := effect
  · rw [duplicate.2]
  · rw [written]

theorem reconcile_kept (orderId : String) (ev : Webhook.Event) (s₀ : Store) :
    ⦃fun m => ⌜m.store = s₀⌝⦄ reconcile orderId ev
    ⦃post⟨fun _ m => ⌜CartsWellFormed s₀.carts → CartsWellFormed m.store.carts⌝,
      fun _ m => ⌜m.store = s₀⌝⟩⦄ := by
  cases ev with
  | checkoutCompleted e =>
    have confirmed := confirmCheckout_kept
    mvcgen [reconcile, unitOfWork_spec, confirmed]
    all_goals simp_all
  | paymentFailed e =>
    mvcgen [reconcile, unitOfWork_spec, recordFailedPayment_spec]
    all_goals simp_all
    intro effect wf
    exact RecordFailedPayment.carts_eq effect ▸ wf
  | chargeRefunded e =>
    mvcgen [reconcile, unitOfWork_spec, recordChargeRefund_spec]
    all_goals simp_all
    intro effect wf
    exact RecordChargeRefund.carts_eq effect ▸ wf
  | unhandled =>
    mvcgen [reconcile]
    simp_all

theorem receiveWebhook_kept (body : List UInt8) (signature : String) (s₀ : Store) :
    ⦃fun m => ⌜m.store = s₀⌝⦄ receiveWebhook body signature
    ⦃post⟨fun _ m => ⌜CartsWellFormed s₀.carts → CartsWellFormed m.store.carts⌝,
      fun _ m => ⌜m.store = s₀⌝⟩⦄ := by
  have reconciled := reconcile_kept
  mvcgen [receiveWebhook, reconciled]
  all_goals simp_all

/-! ## Every operation -/

/-- An operation specified from the store it starts from, which puts the store back when it
fails, keeps the carts well formed when each of its results does. -/
theorem wellFormed_of_spec {α : Type} {act : MarketM α} {s₀ : Store} {Q : α → Market → Prop}
    (spec : ⦃fun m => ⌜m.store = s₀⌝⦄ act
      ⦃post⟨fun a m => ⌜Q a m⌝, fun _ m => ⌜m.store = s₀⌝⟩⦄)
    (step : ∀ a m, Q a m → CartsWellFormed m.store.carts) (wf : CartsWellFormed s₀.carts) :
    ⦃fun m => ⌜m.store = s₀⌝⦄ act
    ⦃post⟨fun _ m => ⌜CartsWellFormed m.store.carts⌝,
      fun _ m => ⌜CartsWellFormed m.store.carts⌝⟩⦄ :=
  holds_of_spec (R := fun s => CartsWellFormed s.carts) spec step wf

/-- Every request keeps the carts well formed, whether it succeeds or fails. -/
theorem request_cartsWellFormed (r : Request) (s₀ : Store) (wf : CartsWellFormed s₀.carts) :
    ⦃fun m => ⌜m.store = s₀⌝⦄ r.run
    ⦃post⟨fun _ m => ⌜CartsWellFormed m.store.carts⌝,
      fun _ m => ⌜CartsWellFormed m.store.carts⌝⟩⦄ := by
  cases r with
  | addToCart given =>
    exact wellFormed_of_spec (Command.addToCart_kept given s₀) (fun _ _ kept => kept wf) wf
  | updateCartItem given =>
    exact wellFormed_of_spec (Command.updateCartItem_kept given s₀) (fun _ _ kept => kept wf) wf
  | removeFromCart given =>
    exact wellFormed_of_spec (Command.removeFromCart_kept given s₀) (fun _ _ kept => kept wf) wf
  | clearCart given =>
    have spec := wellFormed_of_spec (Command.clearCart_kept given s₀) (fun _ _ kept => kept wf) wf
    mvcgen [Request.run, spec]
  | placeOrder given =>
    have spec := wellFormed_of_spec (Command.placeOrder_spec given s₀)
      (by rintro _ _ ⟨_, taken, placed⟩; exact (placed.carts_eq.trans taken.carts_eq) ▸ wf) wf
    mvcgen [Request.run, spec]
  | checkoutCart given =>
    have spec := wellFormed_of_spec (Command.checkoutCart_spec given s₀)
      (by rintro _ _ ⟨_, taken, placed⟩; exact (placed.carts_eq.trans taken.carts_eq) ▸ wf) wf
    mvcgen [Request.run, spec]
  | cancelOrder given =>
    have spec := wellFormed_of_spec (Command.cancelOrder_spec given s₀)
      (by
        rintro _ _ ⟨_, _, _, _, given, written, _⟩
        exact carts_eq_of_cancelled given written ▸ wf) wf
    mvcgen [Request.run, spec]
  | updateOrderStatus given =>
    have spec := wellFormed_of_spec (Command.updateOrderStatus_spec given s₀)
      (by rintro _ _ ⟨_, _, _, updated⟩; exact carts_eq_of_updated updated ▸ wf) wf
    mvcgen [Request.run, spec]
  | addTrackingNumber given =>
    have spec := wellFormed_of_spec (Command.addTrackingNumber_spec given s₀)
      (by rintro _ _ ⟨_, _, _, _, written⟩; exact carts_eq_of_told written ▸ wf) wf
    mvcgen [Request.run, spec]
  | createSession orderId requester successUrl cancelUrl =>
    have spec := wellFormed_of_spec (createSession_spec orderId requester successUrl cancelUrl s₀)
      (by rintro _ _ ⟨_, _, _, _, _, written⟩; rw [written]; simpa using wf) wf
    mvcgen [Request.run, spec]
  | webhook body signature =>
    have spec := wellFormed_of_spec (receiveWebhook_kept body signature s₀)
      (fun _ _ kept => kept wf) wf
    mvcgen [Request.run, spec]

/-- Every reconciliation keeps the carts well formed, whether it succeeds or fails. -/
theorem reconciliation_cartsWellFormed (c : Reconciliation) (s₀ : Store)
    (wf : CartsWellFormed s₀.carts) :
    ⦃fun m => ⌜m.store = s₀⌝⦄ c.run
    ⦃post⟨fun _ m => ⌜CartsWellFormed m.store.carts⌝,
      fun _ m => ⌜CartsWellFormed m.store.carts⌝⟩⦄ := by
  cases c with
  | recordSession orderId sessionId =>
    exact wellFormed_of_spec (recordSession_spec orderId sessionId s₀)
      (fun _ _ ⟨_, _, _, _, _, written⟩ => by rw [written]; simpa using wf) wf
  | confirmCheckout c =>
    have spec := wellFormed_of_spec (unitOfWork_spec (confirmCheckout_kept c s₀))
      (fun _ _ kept => kept wf) wf
    mvcgen [Reconciliation.run, spec]
  | recordFailedPayment c =>
    have spec := wellFormed_of_spec (unitOfWork_spec (recordFailedPayment_spec c s₀))
      (fun _ _ effect => RecordFailedPayment.carts_eq effect ▸ wf) wf
    mvcgen [Reconciliation.run, spec]
  | recordChargeRefund c =>
    have spec := wellFormed_of_spec (unitOfWork_spec (recordChargeRefund_spec c s₀))
      (fun _ _ effect => RecordChargeRefund.carts_eq effect ▸ wf) wf
    mvcgen [Reconciliation.run, spec]

/-- Along any run of requests and reconciliations from well-formed carts, the carts stay well
formed. -/
theorem carts_stay_wellFormed {start m : Market} (wf : CartsWellFormed start.store.carts)
    (reached : Reachable (Sum.elim Request.run Reconciliation.run) start m) :
    CartsWellFormed m.store.carts := by
  induction reached with
  | start => exact wf
  | @step before i _ wfBefore =>
    cases i with
    | inl r =>
      exact store_of_triple (P := fun m' => m'.store = before.store) rfl
        (request_cartsWellFormed r before.store wfBefore)
    | inr c =>
      exact store_of_triple (P := fun m' => m'.store = before.store) rfl
        (reconciliation_cartsWellFormed c before.store wfBefore)

/-- An operation that writes at most the carts, and nothing when it fails, leaves everything but
the carts as it found it. -/
theorem carts_only_of_spec {α : Type} {act : MarketM α}
    (spec : ∀ s₀, ⦃fun m => ⌜m.store = s₀⌝⦄ act
      ⦃post⟨fun _ m => ⌜{ m.store with carts := s₀.carts } = s₀⌝, fun _ m => ⌜m.store = s₀⌝⟩⦄)
    (m₀ : Market) : { (run act m₀).2.store with carts := m₀.store.carts } = m₀.store :=
  store_of_triple (P := fun m => m.store = m₀.store) rfl
    (holds_of_spec (R := fun s => { s with carts := m₀.store.carts } = m₀.store) (spec m₀.store)
      (fun _ _ written => written) rfl)

section Outcomes

variable {α : Type} {act : MarketM α} {P : Market → Prop} {Q : α → Market → Prop}
  {E : Fault → Market → Prop} {m₀ m : Market}

theorem ok_of_triple {a : α} (holds : P m₀)
    (spec : ⦃fun m => ⌜P m⌝⦄ act ⦃post⟨fun a m => ⌜Q a m⌝, fun e m => ⌜E e m⌝⟩⦄)
    (ran : run act m₀ = (.ok a, m)) : Q a m := by
  have outcome := run_of_triple holds spec
  rw [ran] at outcome
  exact outcome

theorem error_of_triple {e : Fault} (holds : P m₀)
    (spec : ⦃fun m => ⌜P m⌝⦄ act ⦃post⟨fun a m => ⌜Q a m⌝, fun e m => ⌜E e m⌝⟩⦄)
    (ran : run act m₀ = (.error e, m)) : E e m := by
  have outcome := run_of_triple holds spec
  rw [ran] at outcome
  exact outcome

end Outcomes

/-- An operation that puts the store back when it fails leaves it as it found it. -/
theorem failed_of_spec {α : Type} {act : MarketM α} {Q : Store → α → Market → Prop}
    (spec : ∀ s₀, ⦃fun m => ⌜m.store = s₀⌝⦄ act
      ⦃post⟨fun a m => ⌜Q s₀ a m⌝, fun _ m => ⌜m.store = s₀⌝⟩⦄)
    {m₀ m : Market} {e : Fault} (ran : run act m₀ = (.error e, m)) : m.store = m₀.store :=
  error_of_triple (P := fun m => m.store = m₀.store) rfl (spec m₀.store) ran

end Market

/-- Carts stay well formed and cart commands are atomic. Along any run of requests and
reconciliations from well-formed carts, every customer keeps at most one cart, with at most one line
per product and at least one unit on each line. Adding to a cart raises the customer's quantity of
the product by what was added, and only when the product's stock covers the sum; setting a line
sets that quantity, only within the stock. A cart command that fails leaves the store as it was,
and no cart command writes a product. -/
theorem cart_commands_sound :
    (∀ start m : Market, CartsWellFormed start.store.carts →
      Market.Reachable (Sum.elim Request.run Reconciliation.run) start m →
      CartsWellFormed m.store.carts) ∧
    (∀ (m₀ m : Market) (customerId productId : String) (quantity : Int),
      CartsWellFormed m₀.store.carts →
      Market.run (Market.addToCart customerId productId quantity) m₀ = (.ok (), m) →
      m.store.quantityInCart customerId productId =
        m₀.store.quantityInCart customerId productId + quantity ∧
      ∃ p, m₀.store.products.find? (·.id == productId) = some p ∧
        m₀.store.quantityInCart customerId productId + quantity ≤ p.stock) ∧
    (∀ (m₀ m : Market) (customerId productId : String) (quantity : Int),
      CartsWellFormed m₀.store.carts →
      Market.run (Market.updateCartItem customerId productId quantity) m₀ = (.ok (), m) →
      m.store.quantityInCart customerId productId = quantity ∧
      ∃ p, m₀.store.products.find? (·.id == productId) = some p ∧ quantity ≤ p.stock) ∧
    (∀ (given : Field.Given) (m₀ m : Market) (e : Fault),
      (Market.run (Market.Command.addToCart given) m₀ = (.error e, m) → m.store = m₀.store) ∧
      (Market.run (Market.Command.updateCartItem given) m₀ = (.error e, m) → m.store = m₀.store) ∧
      (Market.run (Market.Command.removeFromCart given) m₀ = (.error e, m) → m.store = m₀.store) ∧
      (Market.run (Market.Command.clearCart given) m₀ = (.error e, m) → m.store = m₀.store) ∧
      (Market.run (Market.Command.checkoutCart given) m₀ = (.error e, m) → m.store = m₀.store)) ∧
    ∀ (given : Field.Given) (m₀ : Market),
      (Market.run (Market.Command.addToCart given) m₀).2.store.products = m₀.store.products ∧
      (Market.run (Market.Command.updateCartItem given) m₀).2.store.products = m₀.store.products ∧
      (Market.run (Market.Command.removeFromCart given) m₀).2.store.products = m₀.store.products ∧
      (Market.run (Market.Command.clearCart given) m₀).2.store.products = m₀.store.products := by
  refine ⟨fun _ _ wf reached => Market.carts_stay_wellFormed wf reached, ?_, ?_, ?_, ?_⟩
  · intro m₀ m customerId productId quantity wf ran
    exact (Market.ok_of_triple (P := fun m => m.store = m₀.store) rfl
      (Market.addToCart_effect customerId productId quantity m₀.store) ran wf).2
  · intro m₀ m customerId productId quantity wf ran
    exact (Market.ok_of_triple (P := fun m => m.store = m₀.store) rfl
      (Market.updateCartItem_effect customerId productId quantity m₀.store) ran wf).2
  · intro given m₀ m e
    exact ⟨Market.failed_of_spec (Market.Command.addToCart_spec given),
      Market.failed_of_spec (Market.Command.updateCartItem_spec given),
      Market.failed_of_spec (Market.Command.removeFromCart_spec given),
      Market.failed_of_spec (Market.Command.clearCart_spec given),
      Market.failed_of_spec (Market.Command.checkoutCart_spec given)⟩
  · intro given m₀
    exact ⟨(Store.fields_of_with_carts
        (Market.carts_only_of_spec (Market.Command.addToCart_spec given) m₀)).1,
      (Store.fields_of_with_carts
        (Market.carts_only_of_spec (Market.Command.updateCartItem_spec given) m₀)).1,
      (Store.fields_of_with_carts
        (Market.carts_only_of_spec (Market.Command.removeFromCart_spec given) m₀)).1,
      (Store.fields_of_with_carts
        (Market.carts_only_of_spec (Market.Command.clearCart_spec given) m₀)).1⟩

namespace Market

/-- The sample shop after a request put two lamps in the cart of the customer `c1`. -/
def twoLampsInCart : Market :=
  (run (Request.addToCart [("customer_id", .str "c1"), ("product_id", .str "lamp"),
    ("quantity", .int 2)]).run lampShop).2

/-- A request puts two lamps in the customer's cart of the sample shop; adding three more gives
five, no more than the ten in stock. -/
theorem five_lamps_in_a_cart :
    let m₀ := (run (Request.addToCart [("customer_id", .str "c1"), ("product_id", .str "lamp"),
      ("quantity", .int 2)]).run lampShop).2
    let m := (run (addToCart "c1" "lamp" 3) m₀).2
    ((run (addToCart "c1" "lamp" 3) m₀).1 = .ok () ∧ m.store.quantityInCart "c1" "lamp" = 5) ∧
    CartsWellFormed m₀.store.carts ∧
    m.store.quantityInCart "c1" "lamp" = m₀.store.quantityInCart "c1" "lamp" + 3 ∧
    ∃ p, m₀.store.products.find? (·.id == "lamp") = some p ∧
      m₀.store.quantityInCart "c1" "lamp" + 3 ≤ p.stock := by
  have added : (run (addToCart "c1" "lamp" 3) twoLampsInCart).1 = .ok () ∧
      (run (addToCart "c1" "lamp" 3) twoLampsInCart).2.store.quantityInCart "c1" "lamp" = 5 := by
    decide +kernel
  intro m₀ m
  have noCarts : CartsWellFormed lampShop.store.carts :=
    ⟨List.nodup_nil, List.nodup_nil, by simp [lampShop]⟩
  -- the request's cart is well formed, as after every run of requests
  have wellFormed : CartsWellFormed m₀.store.carts := cart_commands_sound.1 lampShop m₀ noCarts
    (Reachable.start.request (.addToCart [("customer_id", .str "c1"), ("product_id", .str "lamp"),
      ("quantity", .int 2)]))
  exact ⟨added, wellFormed,
    cart_commands_sound.2.1 m₀ m "c1" "lamp" 3 wellFormed (run_eq_of_outcome added.1)⟩

end Market

end Bazaar
