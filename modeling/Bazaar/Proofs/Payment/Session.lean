import Mathlib
import Bazaar.Proofs.Market.Refusals

/-!
# Opening a checkout session

Opening a checkout session reads the order and checks it without writing: it must belong to the
requester, be unpaid, not cancelled, awaiting payment and have lines. Only then is the gateway
called, once, for the order's final amount in minor units of its currency, with the order and its
customer as metadata (`Market.CheckoutCall`). A gateway that fails makes the whole operation fail
as a payment-session error, and nothing is written. When the session opens, it is recorded on the
order in a unit of work of its own, which changes the order's session and nothing else.

`Market.checkout_session_contract` states this for every market, order identifier and requester.
-/

open Std.Do

set_option mvcgen.warning false

namespace Bazaar

namespace Field

/-- An optional text field given as one text reads that text whenever it passes. -/
theorem optional_text_of_single {name s : String} {least : Nat} {most : Option Nat}
    {r : Option String} (read : optional [(name, .str s)] name (text least most) = .ok r) :
    r = some s := by
  have found : lookup [(name, .str s)] name = some (.str s) := by simp [lookup]
  simp only [optional, found] at read
  cases checked : text least most (.str s) with
  | ok a =>
    simp only [checked, Validation.ok.injEq] at read
    rw [← read, eq_of_text checked]
  | error m => simp [checked, Validation.reject] at read

end Field

namespace Order

open OrderAction

/-- Recording a session named by a text writes exactly that session onto an order awaiting
payment. -/
theorem recordCheckoutSession_named (sessionId : String) (o₀ : Order) :
    ⦃fun st => ⌜st.1 = o₀⌝⦄ recordCheckoutSession (.str sessionId)
    ⦃post⟨fun _ st => ⌜o₀.status = .pendingPayment ∧
        st.1 = { o₀ with checkoutSessionId := some sessionId }⌝,
      fun _ _ => ⌜True⌝⟩⦄ := by
  have named := @Field.optional_text_of_single "checkout_session_id" sessionId 0 (some 255)
  unfold recordCheckoutSession
  generalize Field.optional [("checkout_session_id", .str sessionId)] "checkout_session_id"
    (Field.text 0 (some 255)) = checked at named
  mvcgen
  all_goals simp_all

end Order

namespace Market

/-- The refusal of a gateway that cannot open a session. -/
def sessionRefused : Fault :=
  .paymentSession "Payment session could not be created. Please try again later."

/-- The call to the gateway that opening a checkout session for `orderId` makes: it is for the
order stored under that identifier, which the requester owns and which can be paid, in the order
the checks are made; it asks for the order's final amount in minor units of its currency (the
order's own, or else the one the settings give, in lower case), and carries the order and its
customer as metadata. -/
@[mk_iff]
structure CheckoutCall (m₀ : Market) (orderId requester : String) (o : Order)
    (call : GatewayCall) : Prop where
  found : m₀.store.orders.find? (·.id == orderId) = some o
  owned : o.customerId = requester
  unpaid : o.paymentStatus ≠ .completed
  live : o.status.isCancelled = false
  awaiting : o.status = .pendingPayment
  lined : o.items ≠ []
  currency : ∃ code, (if o.currency.isEmpty then m₀.settings.currency else .str o.currency) =
    .str code ∧ call.currency = Text.toLower code
  amount : ∃ d, Money.decimalOfFloat o.final = .ok d ∧
    Money.toMinorUnits d call.currency = .ok call.amountMinor
  metadata : call.metadata = [("order_id", o.id), ("customer_id", o.customerId)]

/-- Lifting a result answers its value. Unlike `lift_spec`, the result is stated as equal to its
value, so that simplification replaces a computation by what it gave. -/
theorem lift_result {α : Type} (r : Except Fault α) (m₀ : Market) :
    ⦃fun m => ⌜m = m₀⌝⦄ lift r
    ⦃post⟨fun a m => ⌜m = m₀ ∧ r = .ok a⌝, fun e m => ⌜m = m₀ ∧ r = .error e⌝⟩⦄ := by
  cases r <;> mvcgen [lift]
  all_goals simp_all

/-- The payability check passes exactly for an order that is unpaid, not cancelled, awaiting
payment and has lines. -/
theorem ensurePayable_admits (o : Order) (m₀ : Market) :
    ⦃fun m => ⌜m = m₀⌝⦄ ensurePayable o
    ⦃post⟨fun _ m => ⌜m = m₀ ∧ o.paymentStatus ≠ .completed ∧ o.status.isCancelled = false ∧
        o.status = .pendingPayment ∧ o.items ≠ []⌝,
      fun _ m => ⌜m = m₀⌝⟩⦄ := by
  mvcgen [ensurePayable, -ensurePayable_spec]
  all_goals simp_all

/-- The gateway records every call made to it, and then opens a session or refuses. -/
theorem openSession_call (call : GatewayCall) (m₀ : Market) :
    ⦃fun m => ⌜m = m₀⌝⦄ openSession call
    ⦃post⟨fun _ m => ⌜m₀.gateway.succeeds = true ∧ m.store = m₀.store ∧
        m.gateway.calls = m₀.gateway.calls ++ [call]⌝,
      fun e m => ⌜m₀.gateway.succeeds = false ∧ e = sessionRefused ∧ m.store = m₀.store ∧
        m.gateway.calls = m₀.gateway.calls ++ [call]⌝⟩⦄ := by
  mvcgen [openSession, -openSession_spec]
  all_goals simp_all +zetaDelta [sessionRefused]

/-- Recording a session named by a text writes it onto the order stored under the identifier,
which must be awaiting payment; a failure leaves the market as it was. -/
theorem recordSession_named (orderId sessionId : String) (m₀ : Market) :
    ⦃fun m => ⌜m = m₀⌝⦄ recordSession orderId sessionId
    ⦃post⟨fun _ m => ⌜∃ o, m₀.store.orders.find? (·.id == orderId) = some o ∧
        m = { m₀ with store := m₀.store.putOrder { o with checkoutSessionId := some sessionId } }⌝,
      fun _ m => ⌜m = m₀⌝⟩⦄ := by
  have recording o := onOrder_of_triple (Q := fun _ o' => o.status = .pendingPayment ∧
      o' = { o with checkoutSessionId := some sessionId })
    (Order.recordCheckoutSession_named sessionId o)
  apply unitOfWork_restores
  mvcgen [-getOrder_spec, getOrder_found, -onOrder_recordCheckoutSession_spec, recording]
  all_goals simp_all

/-- A session opened for the order found under an identifier, and recorded on it: the gateway
took the call once, and the store is the one before with the session written onto that order. -/
theorem sessionRecorded_of_call {m₀ m₁ m : Market} {orderId sessionId : String} {o : Order}
    {call : GatewayCall} (found : m₀.store.orders.find? (·.id == orderId) = some o)
    (named : o.id = orderId) (stored : m₁.store = m₀.store)
    (called : m₁.gateway.calls = m₀.gateway.calls ++ [call])
    (recorded : ∃ o', m₁.store.orders.find? (·.id == o.id) = some o' ∧
      m = { m₁ with store := m₁.store.putOrder { o' with checkoutSessionId := some sessionId } }) :
    m.gateway.calls = m₀.gateway.calls ++ [call] ∧
      m.store = m₀.store.putOrder { o with checkoutSessionId := some sessionId } := by
  obtain ⟨o', found', rfl⟩ := recorded
  rw [stored, named, found] at found'
  obtain rfl := Option.some.inj found'
  exact ⟨called, by rw [stored]⟩

/-- Opening a checkout session: the gateway is called at most once, and only with the call of
`CheckoutCall`. A success records the returned session on that order and writes nothing else; a
failure writes nothing, and when the gateway itself refused, it is the payment-session error. -/
theorem createSession_contract (orderId requester : String) (successUrl cancelUrl : Json)
    (m₀ : Market) :
    ⦃fun m => ⌜m = m₀⌝⦄ createSession orderId requester successUrl cancelUrl
    ⦃post⟨fun session m => ⌜∃ o call, CheckoutCall m₀ orderId requester o call ∧
        m₀.gateway.succeeds = true ∧ m.gateway.calls = m₀.gateway.calls ++ [call] ∧
        m.store = m₀.store.putOrder { o with checkoutSessionId := some session.sessionId }⌝,
      fun e m => ⌜m.store = m₀.store ∧ (m.gateway.calls = m₀.gateway.calls ∨
        ∃ o call, CheckoutCall m₀ orderId requester o call ∧
          m.gateway.calls = m₀.gateway.calls ++ [call] ∧
          (m₀.gateway.succeeds = false → e = sessionRefused))⌝⟩⦄ := by
  simp only [checkoutCall_iff]
  unfold createSession
  -- the amount is computed by money functions that must not be evaluated
  generalize Money.toMinorUnits = toMinor
  generalize Money.decimalOfFloat = decimalOf
  mvcgen [-lift_spec, lift_result, -ensureOwner_spec, ensureOwner_admits,
    -ensurePayable_spec, ensurePayable_admits, -openSession_spec, openSession_call,
    recordSession_named]
  case vc1 =>
    -- an order without a currency of its own, priced in the one the settings give
    rename_i _ atStart _ _ settled o _ found _ _ owned _ _ noCurrency code configured _ payable d _
      decimal _ _ minor _ _ opened _ _ recorded
    obtain ⟨rfl, rfl⟩ := settled
    obtain ⟨rfl, found, named⟩ := found
    obtain ⟨rfl, owned⟩ := owned
    obtain ⟨rfl, unpaid, live, awaiting, lined⟩ := payable
    obtain ⟨rfl, decimal⟩ := decimal
    obtain ⟨rfl, minor⟩ := minor
    obtain ⟨succeeds, stored, called⟩ := opened
    subst atStart
    obtain ⟨calls, written⟩ := sessionRecorded_of_call found named stored called recorded
    refine ⟨o, _, ?_, succeeds, calls, written⟩
    exact ⟨found, owned, unpaid, live, awaiting, lined, ⟨code, by simp [noCurrency, configured], rfl⟩,
      ⟨d, decimal, minor⟩, rfl⟩
  case vc12 =>
    -- an order priced in its own currency
    rename_i _ atStart _ _ settled o _ found _ _ owned _ _ ownCurrency _ payable d _ decimal _ _
      minor _ _ opened _ _ recorded
    obtain ⟨rfl, rfl⟩ := settled
    obtain ⟨rfl, found, named⟩ := found
    obtain ⟨rfl, owned⟩ := owned
    obtain ⟨rfl, unpaid, live, awaiting, lined⟩ := payable
    obtain ⟨rfl, decimal⟩ := decimal
    obtain ⟨rfl, minor⟩ := minor
    obtain ⟨succeeds, stored, called⟩ := opened
    subst atStart
    obtain ⟨calls, written⟩ := sessionRecorded_of_call found named stored called recorded
    refine ⟨o, _, ?_, succeeds, calls, written⟩
    exact ⟨found, owned, unpaid, live, awaiting, lined, ⟨o.currency, by simp [ownCurrency], rfl⟩,
      ⟨d, decimal, minor⟩, rfl⟩
  -- a failure: a check refused before the gateway was called, the gateway refused, or recording
  -- the session was refused; the store is as it was
  all_goals simp_all [OrderStatus.isCancelled]

/-- Opening a checkout session, from any market, for any order identifier and requester. The
gateway is called at most once, and only with the call of `CheckoutCall`: for the order stored
under the identifier, once the requester is found to own it and it is found payable, for its final
amount in minor units and with the order and its customer as metadata. A session opened by a
gateway that accepts is recorded on that order, and nothing else is written. Any failure writes
nothing; a gateway that refuses the call makes it the payment-session error. -/
theorem checkout_session_contract (m₀ : Market) (orderId requester : String)
    (successUrl cancelUrl : Json) :
    match run (createSession orderId requester successUrl cancelUrl) m₀ with
    | (.ok session, m) => ∃ o call, CheckoutCall m₀ orderId requester o call ∧
        m₀.gateway.succeeds = true ∧ m.gateway.calls = m₀.gateway.calls ++ [call] ∧
        m.store = m₀.store.putOrder { o with checkoutSessionId := some session.sessionId }
    | (.error e, m) => m.store = m₀.store ∧ (m.gateway.calls = m₀.gateway.calls ∨
        ∃ o call, CheckoutCall m₀ orderId requester o call ∧
          m.gateway.calls = m₀.gateway.calls ++ [call] ∧
          (m₀.gateway.succeeds = false → e = sessionRefused)) := by
  have ran := run_of_triple (P := (· = m₀)) rfl
    (createSession_contract orderId requester successUrl cancelUrl m₀)
  rcases outcome : run (createSession orderId requester successUrl cancelUrl) m₀ with
    ⟨_ | session, m⟩
  all_goals simp only [outcome] at ran ⊢
  all_goals exact ran

end Market

end Bazaar
