import Mathlib
import Bazaar.Market.Request

/-!
# Specifications of reading and writing the store

Operations on the marketplace are specified by Hoare triples whose precondition pins the market
to a given `m₀` and whose two postconditions, one for a result and one for a failure, say how the
market after the operation relates to `m₀`. This file gives those triples for the operations that
read and write single records, and for a unit of work: when its command fails, the store is put
back as it was and the rest of the market is kept as the command left it.

`Market.run_of_triple` turns such a triple into a statement about `Market.run`.
-/

open Std.Do

set_option mvcgen.warning false

namespace Bazaar

namespace Market

variable {α : Type}

/-- A run is its outcome paired with the market after it; a concrete run whose outcome has been
evaluated is so written without evaluating the market. -/
theorem run_eq_of_outcome {act : MarketM α} {m₀ : Market} {r : Except Fault α}
    (outcome : (run act m₀).1 = r) : run act m₀ = (r, (run act m₀).2) := by
  rw [← outcome]

/-- A triple whose precondition holds of `m₀` describes the outcome and the market that `run`
gives from `m₀`. -/
theorem run_of_triple {act : MarketM α} {P : Market → Prop} {m₀ : Market}
    {Q : α → Market → Prop} {E : Fault → Market → Prop} (holds : P m₀)
    (spec : ⦃fun m => ⌜P m⌝⦄ act ⦃post⟨fun a m => ⌜Q a m⌝, fun e m => ⌜E e m⌝⟩⦄) :
    match run act m₀ with
    | (.ok a, m) => Q a m
    | (.error e, m) => E e m := by
  have atStart := spec m₀ holds
  simp only [wp, run, Id.run] at atStart ⊢
  change match StateT.run (ExceptT.run act) m₀ with
    | (.ok a, m) => Q a m
    | (.error e, m) => E e m
  rcases outcome : StateT.run (ExceptT.run act) m₀ with ⟨_ | a, m⟩ <;>
    simp_all [PredTrans.pushExcept, PredTrans.pushArg, PredTrans.apply, ExceptT.run,
      StateT.run, pure, PredTrans.pure]

@[spec]
theorem records_spec (m₀ : Market) :
    ⦃fun m => ⌜m = m₀⌝⦄ records ⦃⇓ s m => ⌜m = m₀ ∧ s = m₀.store⌝⦄ := by
  mvcgen [records]
  simp_all

@[spec]
theorem updateStore_spec (f : Store → Store) (m₀ : Market) :
    ⦃fun m => ⌜m = m₀⌝⦄ updateStore f ⦃⇓ _ m => ⌜m = { m₀ with store := f m₀.store }⌝⦄ := by
  mvcgen [updateStore]
  subst_vars
  rfl

@[spec]
theorem fail_spec (f : Fault) (m₀ : Market) :
    ⦃fun m => ⌜m = m₀⌝⦄ (fail f : MarketM α)
    ⦃post⟨fun _ _ => ⌜False⌝, fun e m => ⌜m = m₀ ∧ e = f⌝⟩⦄ := by
  mvcgen [fail]

@[spec]
theorem lift_spec (r : Except Fault α) (m₀ : Market) :
    ⦃fun m => ⌜m = m₀⌝⦄ lift r
    ⦃post⟨fun a m => ⌜m = m₀ ∧ .ok a = r⌝, fun e m => ⌜m = m₀ ∧ .error e = r⌝⟩⦄ := by
  cases r <;> mvcgen [lift]

@[spec]
theorem currentSettings_spec (m₀ : Market) :
    ⦃fun m => ⌜m = m₀⌝⦄ currentSettings ⦃⇓ s m => ⌜m = m₀ ∧ s = m₀.settings⌝⦄ := by
  mvcgen [currentSettings]
  simp_all

@[spec]
theorem now_spec (m₀ : Market) :
    ⦃fun m => ⌜m = m₀⌝⦄ now ⦃⇓ t m => ⌜m = m₀ ∧ t = Instant.ofSeconds m₀.clock⌝⦄ := by
  mvcgen [now]
  simp_all

@[spec]
theorem freshToken_spec (m₀ : Market) :
    ⦃fun m => ⌜m = m₀⌝⦄ freshToken
    ⦃⇓ t m => ⌜m = { m₀ with tokensIssued := m₀.tokensIssued + 1 } ∧
      t = (Generated.record (m₀.tokensIssued + 1)).token⌝⦄ := by
  mvcgen [freshToken]
  simp_all

@[spec]
theorem nextOrderId_spec (m₀ : Market) :
    ⦃fun m => ⌜m = m₀⌝⦄ nextOrderId
    ⦃⇓ id m => ⌜m = m₀ ∧ id = (Generated.order (m₀.store.orders.length + 1)).token⌝⦄ := by
  mvcgen [nextOrderId]
  simp_all

/-- The product found under an identifier has that identifier. -/
theorem id_of_find?_product {ps : List Product} {id : String} {p : Product}
    (found : ps.find? (·.id == id) = some p) : p.id = id := by
  simpa using List.find?_some found

/-- The order found under an identifier has that identifier. -/
theorem id_of_find?_order {os : List Order} {id : String} {o : Order}
    (found : os.find? (·.id == id) = some o) : o.id = id := by
  simpa using List.find?_some found

@[spec]
theorem findProduct_spec (id : String) (m₀ : Market) :
    ⦃fun m => ⌜m = m₀⌝⦄ findProduct id
    ⦃⇓ p m => ⌜m = m₀ ∧ m₀.store.products.find? (·.id == id) = p ∧
      ∀ q, p = some q → q.id = id⌝⦄ := by
  mvcgen [findProduct]
  simp_all
  intro q found
  exact id_of_find?_product found

@[spec]
theorem getProduct_spec (id : String) (m₀ : Market) :
    ⦃fun m => ⌜m = m₀⌝⦄ getProduct id
    ⦃post⟨fun p m => ⌜m = m₀ ∧ m₀.store.products.find? (·.id == id) = some p ∧ p.id = id⌝,
      fun _ m => ⌜m = m₀ ∧ m₀.store.products.find? (·.id == id) = none⌝⟩⦄ := by
  mvcgen [getProduct]
  all_goals simp_all

@[spec]
theorem getOrder_spec (id : String) (m₀ : Market) :
    ⦃fun m => ⌜m = m₀⌝⦄ getOrder id
    ⦃post⟨fun o m => ⌜m = m₀ ∧ m₀.store.orders.find? (·.id == id) = some o ∧ o.id = id⌝,
      fun _ m => ⌜m = m₀⌝⟩⦄ := by
  mvcgen [getOrder]
  case vc1 =>
    -- the order found under the id is answered, and it carries the id
    rename_i m atStart _ o found m' read
    obtain ⟨rfl, rfl⟩ := read
    subst atStart
    exact ⟨rfl, found, id_of_find?_order found⟩
  -- no order under the id: a refusal that writes nothing
  all_goals simp_all

@[spec]
theorem findCoupon_spec (code : String) (m₀ : Market) :
    ⦃fun m => ⌜m = m₀⌝⦄ findCoupon code
    ⦃⇓ c m => ⌜m = m₀ ∧
      m₀.store.coupons.find? (·.code == Text.toUpper (Text.trimBlank code)) = c⌝⦄ := by
  mvcgen [findCoupon]
  simp_all +zetaDelta

@[spec]
theorem findCart_spec (customerId : String) (m₀ : Market) :
    ⦃fun m => ⌜m = m₀⌝⦄ findCart customerId
    ⦃⇓ c m => ⌜m = m₀ ∧ m₀.store.carts.find? (·.customerId == customerId) = c⌝⦄ := by
  mvcgen [findCart]
  simp_all

@[spec]
theorem putProduct_spec (p : Product) (m₀ : Market) :
    ⦃fun m => ⌜m = m₀⌝⦄ putProduct p
    ⦃⇓ _ m => ⌜m = { m₀ with store := m₀.store.putProduct p }⌝⦄ := by
  mvcgen [putProduct]

@[spec]
theorem putOrder_spec (o : Order) (m₀ : Market) :
    ⦃fun m => ⌜m = m₀⌝⦄ putOrder o ⦃⇓ _ m => ⌜m = { m₀ with store := m₀.store.putOrder o }⌝⦄ := by
  mvcgen [putOrder]

@[spec]
theorem putCoupon_spec (c : Coupon) (m₀ : Market) :
    ⦃fun m => ⌜m = m₀⌝⦄ putCoupon c ⦃⇓ _ m => ⌜m = { m₀ with store := m₀.store.putCoupon c }⌝⦄ := by
  mvcgen [putCoupon]

@[spec]
theorem putCart_spec (c : Cart) (m₀ : Market) :
    ⦃fun m => ⌜m = m₀⌝⦄ putCart c ⦃⇓ _ m => ⌜m = { m₀ with store := m₀.store.putCart c }⌝⦄ := by
  mvcgen [putCart]

/-- A unit of work does what its command does; when the command fails, the store is back to
where it started. -/
theorem unitOfWork_spec {act : MarketM α} {s₀ : Store} {Q : α → Market → Prop}
    (spec : ⦃fun m => ⌜m.store = s₀⌝⦄ act ⦃post⟨fun a m => ⌜Q a m⌝, fun _ _ => ⌜True⌝⟩⦄) :
    ⦃fun m => ⌜m.store = s₀⌝⦄ unitOfWork act
    ⦃post⟨fun a m => ⌜Q a m⌝, fun _ m => ⌜m.store = s₀⌝⟩⦄ := by
  mvcgen [unitOfWork, spec]
  all_goals simp_all

/-- A unit of work whose command changes at most the store before it fails leaves the market as
it found it when it fails. -/
theorem unitOfWork_restores {act : MarketM α} {m₀ : Market} {Q : α → Market → Prop}
    (spec : ⦃fun m => ⌜m = m₀⌝⦄ act
      ⦃post⟨fun a m => ⌜Q a m⌝, fun _ m => ⌜{ m with store := m₀.store } = m₀⌝⟩⦄) :
    ⦃fun m => ⌜m = m₀⌝⦄ unitOfWork act ⦃post⟨fun a m => ⌜Q a m⌝, fun _ m => ⌜m = m₀⌝⟩⦄ := by
  mvcgen [unitOfWork, spec]
  all_goals simp_all

/-- An operation specified from the store it starts from, which puts the store back when it fails,
leaves a store with a property `R` whenever each of its results does and the store it started
from has it. -/
theorem holds_of_spec {act : MarketM α} {s₀ : Store} {Q : α → Market → Prop} {R : Store → Prop}
    (spec : ⦃fun m => ⌜m.store = s₀⌝⦄ act
      ⦃post⟨fun a m => ⌜Q a m⌝, fun _ m => ⌜m.store = s₀⌝⟩⦄)
    (step : ∀ a m, Q a m → R m.store) (kept : R s₀) :
    ⦃fun m => ⌜m.store = s₀⌝⦄ act ⦃post⟨fun _ m => ⌜R m.store⌝, fun _ m => ⌜R m.store⌝⟩⦄ := by
  mvcgen [spec]
  case vc2 => exact step _ _
  case vc3 => exact fun restored => restored ▸ kept

/-- A triple whose precondition holds of `m₀` says what `run` leaves from `m₀`, whether the
operation succeeds or fails. -/
theorem store_of_triple {act : MarketM α} {P : Market → Prop} {m₀ : Market} {R : Market → Prop}
    (holds : P m₀) (spec : ⦃fun m => ⌜P m⌝⦄ act ⦃post⟨fun _ m => ⌜R m⌝, fun _ m => ⌜R m⌝⟩⦄) :
    R (run act m₀).2 := by
  have ran := run_of_triple holds spec
  rcases outcome : run act m₀ with ⟨_ | _, m⟩ <;> simp only [outcome] at ran ⊢ <;> exact ran

@[spec]
theorem putPayment_spec (p : Payment) (m₀ : Market) :
    ⦃fun m => ⌜m = m₀⌝⦄ putPayment p
    ⦃⇓ _ m => ⌜m = { m₀ with store := { m₀.store with payments := m₀.store.payments ++ [p] } }⌝⦄ := by
  mvcgen [putPayment]

end Market

end Bazaar
