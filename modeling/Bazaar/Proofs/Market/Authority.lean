import Mathlib
import Bazaar.Proofs.Market.Refusals

/-!
# Only authorised callers change an order

Every operation that changes an order looks the order up and checks its caller against it before
anything else: a customer cancels and pays for only their own orders, and staff set statuses and
tracking numbers only on the orders they manage, where sellers set only the processing and shipped
statuses. A caller the stored order does not admit is refused as forbidden with the market as it
was, and no other caller is refused (`order_changes_need_authority`). A webhook is reconciled only
once its signature checks: a body whose signature does not check fails as the check does and
changes nothing.
-/

open Std.Do

set_option mvcgen.warning false

namespace Bazaar

namespace Market

variable {α : Type}

/-! ## Guarded operations -/

/-- How an operation on the order stored under `orderId` answers a caller that `admits` judges on
that order: it succeeds only when the stored order admits the caller; it is refused as forbidden,
with the market as it was, when the stored order does not; and it is refused only then. -/
structure Guarded (act : MarketM α) (m : Market) (orderId : String) (admits : Order → Prop) :
    Prop where
  admitted_of_ok : ∀ a m', run act m = (.ok a, m') →
    ∃ o, m.store.orders.find? (·.id == orderId) = some o ∧ admits o
  refused : ∀ o, m.store.orders.find? (·.id == orderId) = some o → ¬admits o →
    ∃ msg, run act m = (.error (.forbidden msg), m)
  unadmitted_of_refused : ∀ msg m', run act m = (.error (.forbidden msg), m') →
    ∃ o, m.store.orders.find? (·.id == orderId) = some o ∧ ¬admits o

/-- What a failure `e` that left the market `m` says of a caller of an operation from `m₀` on the
order stored under `orderId`: either the stored order does not admit the caller, who was refused
with the market as it was, or the failure is no refusal and any stored order admits the caller. -/
def Refusal (m₀ : Market) (orderId : String) (admits : Order → Prop) (e : Fault) (m : Market) :
    Prop :=
  (m = m₀ ∧ (∃ o, m₀.store.orders.find? (·.id == orderId) = some o ∧ ¬admits o) ∧
      ∃ msg, e = .forbidden msg) ∨
    ((∀ msg, e ≠ .forbidden msg) ∧
      ∀ o, m₀.store.orders.find? (·.id == orderId) = some o → admits o)

namespace Refusal

variable {m₀ m : Market} {orderId : String} {admits : Order → Prop} {o : Order} {e : Fault}

/-- A failure that refuses no one, once the stored order was found to admit the caller. -/
theorem of_admitted (found : m₀.store.orders.find? (·.id == orderId) = some o)
    (admitted : admits o) (quiet : ∀ msg, e ≠ .forbidden msg) : Refusal m₀ orderId admits e m :=
  .inr ⟨quiet, fun _ found' => Option.some.inj (found.symm.trans found') ▸ admitted⟩

/-- A failure that refuses no one when no order is stored under the identifier. -/
theorem of_missing (missing : m₀.store.orders.find? (·.id == orderId) = none)
    (quiet : ∀ msg, e ≠ .forbidden msg) : Refusal m₀ orderId admits e m :=
  .inr ⟨quiet, fun _ found' => absurd (found'.symm.trans missing) (Option.some_ne_none _)⟩

/-- The refusal of a caller the stored order does not admit, with the market as it was. -/
theorem of_unadmitted (found : m₀.store.orders.find? (·.id == orderId) = some o)
    (unadmitted : ¬admits o) (msg : String) : Refusal m₀ orderId admits (.forbidden msg) m₀ :=
  .inl ⟨rfl, ⟨o, found, unadmitted⟩, msg, rfl⟩

end Refusal

/-- An operation is guarded when it succeeds only for an admitted caller and each of its failures
is a `Refusal`. -/
theorem Guarded.of_triple {act : MarketM α} {m₀ : Market} {orderId : String}
    {admits : Order → Prop}
    (spec : ⦃fun m => ⌜m = m₀⌝⦄ act
      ⦃post⟨fun _ _ => ⌜∃ o, m₀.store.orders.find? (·.id == orderId) = some o ∧ admits o⌝,
        fun e m => ⌜Refusal m₀ orderId admits e m⌝⟩⦄) :
    Guarded act m₀ orderId admits := by
  have ran := run_of_triple (P := fun m => m = m₀) rfl spec
  refine ⟨fun a m' ok => ?_, fun o found notAdmitted => ?_, fun msg m' refused => ?_⟩
  · simpa [ok] using ran
  · rcases outcome : run act m₀ with ⟨_ | a, m'⟩ <;> simp only [outcome] at ran
    · rcases ran with ⟨same, -, msg, rfl⟩ | ⟨-, admitted⟩
      · exact ⟨msg, by rw [same]⟩
      · exact absurd (admitted o found) notAdmitted
    · -- a success would have found an order that admits the caller
      obtain ⟨o', found', admitted⟩ := ran
      obtain rfl : o = o' := Option.some.inj (found.symm.trans found')
      exact absurd admitted notAdmitted
  · simp only [refused] at ran
    rcases ran with ⟨-, unadmitted, -⟩ | ⟨notRefusal, -⟩
    · exact unadmitted
    · exact absurd rfl (notRefusal msg)

/-! ## Looking an order up and checking the caller

Each operation on an order looks it up, checks the caller against it, and then works on it. The
lookup fails with no refusal, the checks refuse exactly the callers they do not admit, and the work
after the checks refuses nobody (`Bazaar.Proofs.Market.Refusals`); so the operation is refused
exactly by its checks. -/

/-- An operation that looks the order up, checks the caller against it and then does work that
refuses nobody answers every caller as a `Refusal`, and succeeds only for an admitted one. -/
theorem checked_guarded {check : Order → MarketM Unit} {work : Order → MarketM α}
    {admits : Order → Prop}
    (checks : ∀ o m₀, ⦃fun m => ⌜m = m₀⌝⦄ check o ⦃post⟨fun _ m => ⌜m = m₀ ∧ admits o⌝,
      fun e m => ⌜m = m₀ ∧ ¬admits o ∧ ∃ msg, e = .forbidden msg⌝⟩⦄)
    (quiet : ∀ o, ⦃fun _ => ⌜True⌝⦄ work o ⦃unrefused⦄) (orderId : String) (m₀ : Market) :
    ⦃fun m => ⌜m = m₀⌝⦄ (do let o ← getOrder orderId; check o; work o)
    ⦃post⟨fun _ _ => ⌜∃ o, m₀.store.orders.find? (·.id == orderId) = some o ∧ admits o⌝,
      fun e m => ⌜Refusal m₀ orderId admits e m⌝⟩⦄ := by
  mvcgen [-getOrder_spec, getOrder_found, checks, quiet]
  case vc1 =>
    -- the work succeeded, after the check admitted the caller on the order found
    rename_i _ atStart o _ looked _ _ checked _ _
    subst atStart
    exact ⟨o, looked.2, checked.2⟩
  case vc2 =>
    -- the work failed, and it refuses no one
    rename_i _ atStart _ _ looked _ _ checked _ _
    subst atStart
    exact Refusal.of_admitted looked.2 checked.2
  case vc3 =>
    -- the check refused the caller, with the market as it was
    rename_i _ atStart _ _ looked _ _
    rintro rfl unadmitted ⟨msg, rfl⟩
    obtain ⟨rfl, found⟩ := looked
    subst atStart
    exact Refusal.of_unadmitted found unadmitted msg
  case vc4 =>
    -- no order is stored under the identifier
    rename_i _ atStart _ _
    rintro - missing quiet
    subst atStart
    exact Refusal.of_missing missing quiet

/-- Two checks in a row pass exactly when both admit the caller, and otherwise refuse as the
failing one does, with the market as it was. -/
theorem checks_then {check₁ check₂ : Order → MarketM Unit} {admits₁ admits₂ : Order → Prop}
    (first : ∀ o m₀, ⦃fun m => ⌜m = m₀⌝⦄ check₁ o ⦃post⟨fun _ m => ⌜m = m₀ ∧ admits₁ o⌝,
      fun e m => ⌜m = m₀ ∧ ¬admits₁ o ∧ ∃ msg, e = .forbidden msg⌝⟩⦄)
    (second : ∀ o m₀, ⦃fun m => ⌜m = m₀⌝⦄ check₂ o ⦃post⟨fun _ m => ⌜m = m₀ ∧ admits₂ o⌝,
      fun e m => ⌜m = m₀ ∧ ¬admits₂ o ∧ ∃ msg, e = .forbidden msg⌝⟩⦄)
    (o : Order) (m₀ : Market) :
    ⦃fun m => ⌜m = m₀⌝⦄ (do check₁ o; check₂ o)
    ⦃post⟨fun _ m => ⌜m = m₀ ∧ (admits₁ o ∧ admits₂ o)⌝,
      fun e m => ⌜m = m₀ ∧ ¬(admits₁ o ∧ admits₂ o) ∧ ∃ msg, e = .forbidden msg⌝⟩⦄ := by
  mvcgen [first, second]
  case vc1 =>
    -- both passed
    rename_i _ atStart _ _ passed _ _
    rintro rfl admitted₂
    obtain ⟨rfl, admitted₁⟩ := passed
    exact ⟨atStart, admitted₁, admitted₂⟩
  case vc2 =>
    -- the first passed and the second refused
    rename_i _ atStart _ _ passed _ _
    rintro rfl unadmitted refusal
    obtain ⟨rfl, -⟩ := passed
    exact ⟨atStart, fun both => unadmitted both.2, refusal⟩
  case vc3 =>
    -- the first refused
    rename_i _ atStart _ _
    rintro rfl unadmitted refusal
    exact ⟨atStart, fun both => unadmitted both.1, refusal⟩

/-- An operation with two checks is guarded by both together. -/
theorem checked_twice_guarded {check₁ check₂ : Order → MarketM Unit} {work : Order → MarketM α}
    {admits₁ admits₂ : Order → Prop}
    (first : ∀ o m₀, ⦃fun m => ⌜m = m₀⌝⦄ check₁ o ⦃post⟨fun _ m => ⌜m = m₀ ∧ admits₁ o⌝,
      fun e m => ⌜m = m₀ ∧ ¬admits₁ o ∧ ∃ msg, e = .forbidden msg⌝⟩⦄)
    (second : ∀ o m₀, ⦃fun m => ⌜m = m₀⌝⦄ check₂ o ⦃post⟨fun _ m => ⌜m = m₀ ∧ admits₂ o⌝,
      fun e m => ⌜m = m₀ ∧ ¬admits₂ o ∧ ∃ msg, e = .forbidden msg⌝⟩⦄)
    (quiet : ∀ o, ⦃fun _ => ⌜True⌝⦄ work o ⦃unrefused⦄) (orderId : String) (m₀ : Market) :
    ⦃fun m => ⌜m = m₀⌝⦄ (do let o ← getOrder orderId; check₁ o; check₂ o; work o)
    ⦃post⟨fun _ _ => ⌜∃ o, m₀.store.orders.find? (·.id == orderId) = some o ∧
        admits₁ o ∧ admits₂ o⌝,
      fun e m => ⌜Refusal m₀ orderId (fun o => admits₁ o ∧ admits₂ o) e m⌝⟩⦄ := by
  -- the two checks, taken together, are one check
  have both := checked_guarded (checks_then first second) quiet orderId m₀
  simpa only [bind_assoc] using both

/-! ## The operations on an order -/

theorem cancelOrder_guarded (orderId requester : String) (m₀ : Market) :
    ⦃fun m => ⌜m = m₀⌝⦄ cancelOrder orderId requester
    ⦃post⟨fun _ _ => ⌜∃ o, m₀.store.orders.find? (·.id == orderId) = some o ∧
        o.customerId = requester⌝,
      fun e m => ⌜Refusal m₀ orderId (·.customerId = requester) e m⌝⟩⦄ := by
  have cancelling := onOrder_unrefused (Order.cancel_refusesNone .cancelledByCustomer)
  refine checked_guarded (fun o => ensureOwner_admits o requester) (fun o => ?_) orderId m₀
  mvcgen [-onOrder_cancel_spec, cancelling, restoreStockFor_unrefused]

theorem updateOrderStatus_guarded (orderId : String) (target : OrderStatus) (actor : String)
    (role : ActorRole) (m₀ : Market) :
    ⦃fun m => ⌜m = m₀⌝⦄ updateOrderStatus orderId target actor role
    ⦃post⟨fun _ _ => ⌜∃ o, m₀.store.orders.find? (·.id == orderId) = some o ∧
        o.ManagedBy actor role ∧ role.MaySet target⌝,
      fun e m =>
        ⌜Refusal m₀ orderId (fun o => o.ManagedBy actor role ∧ role.MaySet target) e m⌝⟩⦄ := by
  have updating := onOrder_unrefused (Order.updateStatus_refusesNone target)
  refine checked_twice_guarded (fun o => ensureStaffCanManage_admits o actor role)
    (fun _ => ensureStatusAllowed_admits role target) (fun o => ?_) orderId m₀
  mvcgen [-onOrder_updateStatus_spec, updating, restoreStockFor_unrefused]

theorem addTracking_guarded (orderId trackingNumber actor : String) (role : ActorRole)
    (m₀ : Market) :
    ⦃fun m => ⌜m = m₀⌝⦄ addTracking orderId trackingNumber actor role
    ⦃post⟨fun _ _ => ⌜∃ o, m₀.store.orders.find? (·.id == orderId) = some o ∧
        o.ManagedBy actor role⌝,
      fun e m => ⌜Refusal m₀ orderId (·.ManagedBy actor role) e m⌝⟩⦄ := by
  have tracking := onOrder_unrefused (Order.addTrackingNumber_refusesNone (.str trackingNumber))
  refine checked_guarded (fun o => ensureStaffCanManage_admits o actor role) (fun o => ?_)
    orderId m₀
  mvcgen [-onOrder_addTrackingNumber_spec, tracking]

theorem createSession_guarded (orderId requester : String) (successUrl cancelUrl : Json)
    (m₀ : Market) :
    ⦃fun m => ⌜m = m₀⌝⦄ createSession orderId requester successUrl cancelUrl
    ⦃post⟨fun _ _ => ⌜∃ o, m₀.store.orders.find? (·.id == orderId) = some o ∧
        o.customerId = requester⌝,
      fun e m => ⌜Refusal m₀ orderId (·.customerId = requester) e m⌝⟩⦄ := by
  unfold createSession
  -- the settings are read first, which changes nothing; what follows is guarded by the owner
  refine Triple.bind _ _ (Q := fun _ m => ⌜m = m₀⌝) ?read fun s => ?guarded
  case read =>
    mvcgen [currentSettings]
    rename_i _ atStart _ _
    rintro rfl -
    exact atStart
  refine checked_guarded (fun o => ensureOwner_admits o requester) (fun o => ?_) orderId m₀
  have convertedQuietly := Money.toMinorUnits_ne_forbidden
  have readQuietly := Money.decimalOfFloat_ne_forbidden
  -- the amount is computed by money functions that must not be evaluated
  generalize Money.toMinorUnits = toMinor at convertedQuietly ⊢
  generalize Money.decimalOfFloat = decimalOf at readQuietly ⊢
  have converting d currency := lift_unrefused (convertedQuietly d currency)
  have reading x := lift_unrefused (readQuietly x)
  mvcgen [-lift_spec, converting, reading, -ensurePayable_spec, ensurePayable_unrefused,
    -openSession_spec, openSession_unrefused, recordSession_unrefused]
  -- what is left: a currency missing from the settings, which fails as a missing attribute
  rintro - rfl _ ⟨⟩

/-! ## Webhooks -/

/-- A webhook whose signature does not check under the gateway's secret and tolerance, at the
market's clock, fails as the check does and changes nothing. -/
theorem run_receiveWebhook_of_unverified {body : List UInt8} {signature : String} {m : Market}
    {f : Fault}
    (unverified : Webhook.verify body signature m.gateway.webhookSecret m.gateway.tolerance
      m.clock = .error f) :
    run (receiveWebhook body signature) m = (.error f, m) := by
  have spec : ⦃fun m' => ⌜m' = m⌝⦄ receiveWebhook body signature
      ⦃post⟨fun _ _ => ⌜False⌝, fun e m' => ⌜e = f ∧ m' = m⌝⟩⦄ := by
    mvcgen [receiveWebhook]
    all_goals simp_all
  have ran := run_of_triple (P := fun m' => m' = m) rfl spec
  rcases outcome : run (receiveWebhook body signature) m with ⟨_ | _, m'⟩ <;>
    simp only [outcome] at ran
  obtain ⟨rfl, rfl⟩ := ran
  rfl

/-! ## Authority over orders -/

/-- Only an authorised caller changes an order. A customer cancels, and opens a checkout session
for, only their own orders; staff set statuses and add tracking numbers only on the orders they
manage, and sellers set only the processing and shipped statuses. Anyone else is refused as
forbidden with the market as it was, and nobody else is refused. A webhook whose signature does
not check fails as the check does, with the market as it was. -/
theorem order_changes_need_authority (m : Market) (orderId requester actor trackingNumber : String)
    (role : ActorRole) (target : OrderStatus) (successUrl cancelUrl : Json) :
    Guarded (cancelOrder orderId requester) m orderId (·.customerId = requester) ∧
    Guarded (updateOrderStatus orderId target actor role) m orderId
      (fun o => o.ManagedBy actor role ∧ role.MaySet target) ∧
    Guarded (addTracking orderId trackingNumber actor role) m orderId (·.ManagedBy actor role) ∧
    Guarded (createSession orderId requester successUrl cancelUrl) m orderId
      (·.customerId = requester) ∧
    ∀ body signature f, Webhook.verify body signature m.gateway.webhookSecret
        m.gateway.tolerance m.clock = .error f →
      run (receiveWebhook body signature) m = (.error f, m) :=
  ⟨.of_triple (cancelOrder_guarded orderId requester m),
    .of_triple (updateOrderStatus_guarded orderId target actor role m),
    .of_triple (addTracking_guarded orderId trackingNumber actor role m),
    .of_triple (createSession_guarded orderId requester successUrl cancelUrl m),
    fun _ _ _ unverified => run_receiveWebhook_of_unverified unverified⟩

end Market

end Bazaar
