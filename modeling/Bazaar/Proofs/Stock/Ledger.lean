import Mathlib
import Bazaar.Proofs.Market.Access
import Bazaar.Proofs.Market.Records

/-!
# The stock ledger

Stock is written only by the ledger's compare-and-swap, which refuses a negative stock and writes
only over the version it read. `Store.StockMove s s' δ` says that `s'` is `s` after such writes:
the products are the same, in the same order, each stored product's stock has moved by `δ` of its
identifier, every product written has a stock that is not negative, and nothing else in the store
has changed. Moves compose, adding their changes.

Taking out `q` units of a product moves its stock by `-q` when it succeeds, and putting them back
moves it by `q`, or does nothing for a product that is not stored. A failed call leaves the
store as it was, whatever attempts it made.
-/

open Std.Do

set_option mvcgen.warning false

namespace Bazaar

namespace Store

/-- The stock of the product with an identifier; a product that is not stored has none. -/
def stockOf (s : Store) (id : String) : Int :=
  ((s.products.find? (·.id == id)).map (·.stock)).getD 0

/-- The identifiers of the stored products, in order. -/
def productIds (s : Store) : List String :=
  s.products.map (·.id)

/-- `s'` is `s` after ledger writes that moved the stock of each stored product by `δ` of its
identifier. -/
structure StockMove (s s' : Store) (δ : String → Int) : Prop where
  frame : s' = { s with products := s'.products }
  ids_eq : s'.productIds = s.productIds
  stock_eq : ∀ id ∈ s.productIds, s'.stockOf id = s.stockOf id + δ id
  written : ∀ p ∈ s'.products, p ∈ s.products ∨ 0 ≤ p.stock

namespace StockMove

variable {s₁ s₂ s₃ : Store} {δ₁ δ₂ : String → Int}

theorem refl (s : Store) : StockMove s s 0 where
  frame := rfl
  ids_eq := rfl
  stock_eq := by simp
  written _ member := .inl member

theorem trans (first : StockMove s₁ s₂ δ₁) (second : StockMove s₂ s₃ δ₂) :
    StockMove s₁ s₃ (δ₁ + δ₂) where
  frame := by
    have firstFrame := first.frame
    have secondFrame := second.frame
    cases s₁; cases s₂; cases s₃
    simp_all
  ids_eq := second.ids_eq.trans first.ids_eq
  stock_eq id member := by
    have firstStock := first.stock_eq id member
    have secondStock := second.stock_eq id (first.ids_eq ▸ member)
    simp only [Pi.add_apply]
    omega
  written p member := (second.written p member).elim (first.written p) .inr

/-- A move is determined by its changes at the stored identifiers only. -/
theorem congr (move : StockMove s₁ s₂ δ₁) (same : ∀ id ∈ s₁.productIds, δ₁ id = δ₂ id) :
    StockMove s₁ s₂ δ₂ where
  frame := move.frame
  ids_eq := move.ids_eq
  stock_eq id member := by rw [← same id member]; exact move.stock_eq id member
  written := move.written

theorem orders_eq (move : StockMove s₁ s₂ δ₁) : s₂.orders = s₁.orders := by
  rw [move.frame]

theorem payments_eq (move : StockMove s₁ s₂ δ₁) : s₂.payments = s₁.payments := by
  rw [move.frame]

theorem coupons_eq (move : StockMove s₁ s₂ δ₁) : s₂.coupons = s₁.coupons := by
  rw [move.frame]

end StockMove

/-- Writing a stored product with a stock that is not negative moves its stock to the new one. -/
theorem stockMove_putProduct {s : Store} {old p : Product}
    (found : s.products.find? (·.id == p.id) = some old) (nonneg : 0 ≤ p.stock) :
    StockMove s (s.putProduct p) fun id => if id = p.id then p.stock - old.stock else 0 where
  frame := by rw [putProduct_eq]
  ids_eq := by
    simp only [productIds, putProduct_products, map_key_upsert_of_any (any_of_find?_eq_some found)]
  stock_eq id _ := by
    by_cases written : id = p.id
    · subst written
      simp [stockOf, find?_upsert_self, found]
    · simp [stockOf, find?_upsert_of_ne _ _ written, written]
  written q member := by
    rcases mem_upsert (by simpa using member) with isNew | isOld
    · exact .inr (isNew ▸ nonneg)
    · exact .inl isOld

/-- Writing a new stock over the product found under an identifier moves that product's stock by
the difference. -/
theorem stockMove_write {s : Store} {productId : String} {p : Product} {n : Int}
    (found : s.products.find? (·.id == productId) = some p) (nonneg : 0 ≤ n) :
    StockMove s (s.putProduct { p with stock := n, version := p.version + 1 })
      fun id => if id = productId then n - p.stock else 0 := by
  obtain rfl := Market.id_of_find?_product found
  exact stockMove_putProduct found nonneg

end Store

theorem Product.assign_stock (p : Product) {n : Int} (nonneg : 0 ≤ n) :
    p.assign "stock" (.int n) = .ok { p with stock := n } := by
  simp [Product.assign, Field.integer, Field.integer.read, bind, Except.bind, not_lt.mpr nonneg,
    pure, Except.pure]

theorem Quantity.lt_whole (a b : Int) : (Quantity.whole a).lt (.whole b) = decide (a < b) := by
  rw [Bool.eq_iff_iff]
  simp [Quantity.lt, Quantity.compare, compare_lt_iff_lt]

namespace Market

theorem versionMatches_int (stored given : Int) :
    versionMatches stored (.int given) = decide (stored = given) := by
  rw [Bool.eq_iff_iff]
  simp [versionMatches, Quantity.ofJson?, Quantity.compare]

@[spec]
theorem nextPlanned_spec (productId : String) (s₀ : Store) :
    ⦃fun m => ⌜m.store = s₀⌝⦄ nextPlanned productId ⦃⇓ _ m => ⌜m.store = s₀⌝⦄ := by
  mvcgen [nextPlanned]

/-- A compare-and-swap of a whole stock writes the stock over the version read, or nothing. -/
@[spec]
theorem compareAndSwap_spec (productId : String) (version n : Int) (s₀ : Store) :
    ⦃fun m => ⌜m.store = s₀⌝⦄ compareAndSwap productId (.int version) (.int n)
    ⦃post⟨fun wrote m => ⌜if wrote then 0 ≤ n ∧
          ∃ p, s₀.products.find? (·.id == productId) = some p ∧ p.version = version ∧
            m.store = s₀.putProduct { p with stock := n, version := p.version + 1 }
        else m.store = s₀⌝,
      fun _ m => ⌜m.store = s₀⌝⟩⦄ := by
  mvcgen [compareAndSwap]
  all_goals simp_all [Quantity.ofJson?, versionMatches_int]
  -- the write: the checked quantity is the new stock, which is not negative
  subst_vars
  simp_all [Quantity.lt_whole, Product.assign_stock]

/-- A whole quantity passes its check when it is at least one. -/
theorem checkQuantity_int (q : Int) :
    checkQuantity (.int q) = if q < 1 then fail Cart.quantityTooSmall else pure (.whole q) := by
  simp [checkQuantity, Json.isNull, Quantity.ofJson?, Quantity.lt_whole]

@[spec]
theorem attemptsOf_spec (given : Json) (m₀ : Market) :
    ⦃fun m => ⌜m = m₀⌝⦄ attemptsOf given ⦃post⟨fun _ m => ⌜m = m₀⌝, fun _ m => ⌜m = m₀⌝⟩⦄ := by
  mvcgen [attemptsOf]
  all_goals simp_all

/-- One attempt after another, taking out a whole quantity: the product read in the attempt that
wrote is the stored one, and its stock covered the quantity. -/
theorem reserve_go_spec (productId : String) (quantity : Json) (q : Int) (s₀ : Store) (k : Nat) :
    ⦃fun m => ⌜m.store = s₀⌝⦄ reserve.go productId quantity (.whole q) k
    ⦃post⟨fun p m => ⌜s₀.products.find? (·.id == productId) = some p ∧ q ≤ p.stock ∧
        m.store = s₀.putProduct { p with stock := p.stock - q, version := p.version + 1 }⌝,
      fun _ m => ⌜m.store = s₀⌝⟩⦄ := by
  -- on the number of attempts left; an attempt that loses leaves the store for the next one
  induction k with
  | zero =>
    mvcgen [reserve.go]
    all_goals simp_all
  | succ k ih =>
    rw [reserve.go]
    simp only [Quantity.subFrom, Quantity.toJson]
    mvcgen [ih]
    case vc5 =>
      -- the swap wrote: the product it found under the version read is the one read
      rename_i m atStart p covered m' read won winning m'' swapped
      obtain ⟨rfl, found, named⟩ := read
      subst atStart winning named
      rw [if_pos rfl] at swapped
      obtain ⟨-, p', found', -, written⟩ := swapped
      obtain rfl : p' = p := Option.some.inj (found'.symm.trans found)
      refine ⟨found, ?_, written⟩
      simpa [Quantity.lt_whole] using covered
    -- a refusal, or a lost swap that leaves the store as it was for the next attempt
    all_goals simp_all [Quantity.lt_whole]

/-- Taking out `q` units: `q` is at least one, the product is stored and its stock covered `q`,
and the stock is written less `q`. -/
@[spec]
theorem reserve_spec (productId : String) (q : Int) (s₀ : Store) :
    ⦃fun m => ⌜m.store = s₀⌝⦄ reserve productId (.int q)
    ⦃post⟨fun p m => ⌜1 ≤ q ∧ s₀.products.find? (·.id == productId) = some p ∧ q ≤ p.stock ∧
        m.store = s₀.putProduct { p with stock := p.stock - q, version := p.version + 1 }⌝,
      fun _ m => ⌜m.store = s₀⌝⟩⦄ := by
  simp only [reserve, checkQuantity_int]
  mvcgen [reserve_go_spec]
  all_goals simp_all

/-- One attempt after another, putting back a whole quantity: a product that is not stored is
left alone, a stored one gets the quantity back. -/
theorem restore_go_spec (productId : String) (q : Int) (s₀ : Store) (k : Nat) :
    ⦃fun m => ⌜m.store = s₀⌝⦄ restore.go productId (.whole q) k
    ⦃post⟨fun r m => ⌜(r = none ∧ s₀.products.find? (·.id == productId) = none ∧ m.store = s₀) ∨
        ∃ p, r = some p ∧ s₀.products.find? (·.id == productId) = some p ∧ 0 ≤ p.stock + q ∧
          m.store = s₀.putProduct { p with stock := p.stock + q, version := p.version + 1 }⌝,
      fun _ m => ⌜m.store = s₀⌝⟩⦄ := by
  induction k with
  | zero =>
    mvcgen [restore.go]
    all_goals simp_all
  | succ k ih =>
    rw [restore.go]
    simp only [Quantity.addTo, Quantity.toJson]
    mvcgen [ih]
    case vc2 =>
      -- the swap wrote: the product it found under the version read is the one read
      rename_i m atStart _ p _ m' read won winning m'' swapped
      obtain ⟨rfl, found, named⟩ := read
      subst atStart winning
      obtain rfl := named p rfl
      rw [if_pos rfl] at swapped
      obtain ⟨restored, p', found', -, written⟩ := swapped
      obtain rfl : p' = p := Option.some.inj (found'.symm.trans found)
      exact .inr ⟨_, rfl, found, restored, written⟩
    -- a product no longer stored, or a lost swap that leaves the store for the next attempt
    all_goals simp_all

/-- Putting back `q` units: `q` is at least one; a product that is not stored is left alone, a
stored one gets the quantity back. -/
@[spec]
theorem restore_spec (productId : String) (q : Int) (s₀ : Store) :
    ⦃fun m => ⌜m.store = s₀⌝⦄ restore productId (.int q)
    ⦃post⟨fun r m => ⌜1 ≤ q ∧
        ((r = none ∧ s₀.products.find? (·.id == productId) = none ∧ m.store = s₀) ∨
        ∃ p, r = some p ∧ s₀.products.find? (·.id == productId) = some p ∧ 0 ≤ p.stock + q ∧
          m.store = s₀.putProduct { p with stock := p.stock + q, version := p.version + 1 })⌝,
      fun _ m => ⌜m.store = s₀⌝⟩⦄ := by
  simp only [restore, checkQuantity_int]
  mvcgen [restore_go_spec]
  all_goals simp_all

end Market

end Bazaar
