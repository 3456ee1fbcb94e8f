import Mathlib
import Bazaar.Proofs.Market.Payments

/-!
# What every request can do to the store

A request runs one command, opens a checkout session or receives a webhook, and a request that
fails puts the store back. So a property of stores holds after every request from `s₀` once it
holds of `s₀` and of whatever each kind of request leaves when it succeeds. `RequestCases R s₀`
lists those facts, one for each kind of request and in the words of the commands' specifications,
and `RequestCases.holds` goes through the requests once. The steps of the orders, the stock, the
coupons and the order terms are each proved by giving their cases. The carts are not: whether
they stay well formed depends on what each cart command writes, which a write of the carts alone
does not say.
-/

open Std.Do

set_option mvcgen.warning false

namespace Bazaar

namespace Market

open Store

/-- What a property `R` of stores needs to hold after every request from `s₀`: it holds of `s₀`,
which a failed request leaves, and of what each kind of request leaves when it succeeds. The two
placements are given whole, since what a property needs to know of the order placed differs from
one property to the next. -/
structure RequestCases (R : Store → Prop) (s₀ : Store) : Prop where
  start : R s₀
  carts : ∀ {s : Store}, { s with carts := s₀.carts } = s₀ → R s
  placing : ∀ given, ⦃fun m => ⌜m.store = s₀⌝⦄ Command.placeOrder given
    ⦃post⟨fun _ m => ⌜R m.store⌝, fun _ m => ⌜R m.store⌝⟩⦄
  checkingOut : ∀ given, ⦃fun m => ⌜m.store = s₀⌝⦄ Command.checkoutCart given
    ⦃post⟨fun _ m => ⌜R m.store⌝, fun _ m => ⌜R m.store⌝⟩⦄
  cancelled : ∀ {s moved : Store} {old : Order}, old ∈ s₀.orders →
    old.status.isCancellable = true → StockMove s₀ moved old.givenBack →
    { s with inbox := s₀.inbox } =
      moved.putOrder { old.cancelledInto .cancelledByCustomer with stockRestored := true } → R s
  updated : ∀ {s : Store} {old : Order} {target : OrderStatus}, old ∈ s₀.orders →
    StatusUpdate s₀ s old target → R s
  tracked : ∀ {s : Store} {old : Order} {t : String}, old ∈ s₀.orders →
    old.status.isTrackable = true →
    { s with inbox := s₀.inbox } = s₀.putOrder { old with
      trackingNumber := some t
      status := if old.status = .processing then .shipped else old.status } → R s
  session : ∀ {s : Store} {old : Order} {session : Option String}, old ∈ s₀.orders →
    old.status = .pendingPayment → s = s₀.putOrder { old with checkoutSessionId := session } →
    R s
  reconciled : ∀ {s : Store} {orderId : String} {ev : Webhook.Event} {status : String},
    eventEffect orderId ev s₀ status s → R s

/-- A property that meets its cases holds after every request from `s₀`, whether it succeeds or
fails. -/
theorem RequestCases.holds {R : Store → Prop} {s₀ : Store} (each : RequestCases R s₀)
    (r : Request) :
    ⦃fun m => ⌜m.store = s₀⌝⦄ r.run ⦃post⟨fun _ m => ⌜R m.store⌝, fun _ m => ⌜R m.store⌝⟩⦄ := by
  cases r with
  | addToCart given =>
    exact holds_of_spec (Command.addToCart_spec given s₀) (fun _ _ => each.carts) each.start
  | updateCartItem given =>
    exact holds_of_spec (Command.updateCartItem_spec given s₀) (fun _ _ => each.carts) each.start
  | removeFromCart given =>
    exact holds_of_spec (Command.removeFromCart_spec given s₀) (fun _ _ => each.carts) each.start
  | clearCart given =>
    have spec := holds_of_spec (Command.clearCart_spec given s₀) (fun _ _ => each.carts) each.start
    mvcgen [Request.run, spec]
  | placeOrder given =>
    have spec := each.placing given
    mvcgen [Request.run, spec]
  | checkoutCart given =>
    have spec := each.checkingOut given
    mvcgen [Request.run, spec]
  | cancelOrder given =>
    have spec := holds_of_spec (Command.cancelOrder_spec given s₀)
      (by
        rintro _ _ ⟨_, member, cancellable, _, given, written, _⟩
        exact each.cancelled member cancellable given written) each.start
    mvcgen [Request.run, spec]
  | updateOrderStatus given =>
    have spec := holds_of_spec (Command.updateOrderStatus_spec given s₀)
      (by rintro _ _ ⟨_, member, _, updated⟩; exact each.updated member updated) each.start
    mvcgen [Request.run, spec]
  | addTrackingNumber given =>
    have spec := holds_of_spec (Command.addTrackingNumber_spec given s₀)
      (by
        rintro _ _ ⟨_, member, trackable, _, written⟩
        exact each.tracked member trackable written) each.start
    mvcgen [Request.run, spec]
  | createSession orderId requester successUrl cancelUrl =>
    have spec := holds_of_spec (createSession_spec orderId requester successUrl cancelUrl s₀)
      (by
        rintro _ _ ⟨_, member, _, awaiting, _, written⟩
        exact each.session member awaiting written) each.start
    mvcgen [Request.run, spec]
  | webhook body signature =>
    have spec := holds_of_spec (receiveWebhook_spec body signature s₀)
      (by
        rintro _ _ (⟨-, unchanged⟩ | ⟨_, _, -, -, effect⟩)
        · exact unchanged ▸ each.start
        · exact each.reconciled effect) each.start
    mvcgen [Request.run, spec]

end Market

end Bazaar
