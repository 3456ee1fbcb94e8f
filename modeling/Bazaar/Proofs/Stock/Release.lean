import Mathlib
import Bazaar.Proofs.Market.Placement

/-!
# Failed placements put their stock back

A placement takes stock line by line. When a line cannot be taken, or settling the order fails
after all were taken, it puts back what it took before it reports the failure; as a command it
also runs in a unit of work, which puts the whole store back.

The unit of work is not needed for the stock. Competing writers are planned as the outcomes of the
next compare-and-swap calls on a product (`Market.plannedFor`): a call planned to lose writes
nothing. A product whose calls are planned to run and then to lose could make a restore lose every
attempt, and then only the unit of work puts its stock back. `Market.LossesFirst` rules that out:
each product's planned losses come before its planned runs, as with a count of losses or no plan
at all. Then a product whose stock was taken is clear (`Market.Calm`): its calls all run, so
putting stock back writes at the first attempt.

`Market.release_calm` puts back the units of every reserved line, `Market.reserveAll_calm` puts
back the earlier lines when a line cannot be taken, and `Market.placeOrder_calm` and
`Market.checkoutCart_calm` conclude that a failed placement has moved no stock and changed nothing
else. `Market.failed_placement_keeps_stock` states both sides: a failed request leaves the store
as it was, and the placement inside keeps every stock on its own.
-/

open Std.Do

set_option mvcgen.warning false

namespace Bazaar

open Store

namespace Store

/-- Putting `l`'s units back into the product found for it, after the lines `done` were put back,
puts back the units of all those lines. -/
theorem StockMove.restore_then {s₀ s₁ s₂ : Store} {done : List (String × Int)}
    {l : String × Int} {p : Product} (moved : StockMove s₀ s₁ (Market.linesUnits done))
    (found : s₁.products.find? (·.id == l.1) = some p) (nonneg : 0 ≤ p.stock + l.2)
    (written : s₂ = s₁.putProduct { p with stock := p.stock + l.2, version := p.version + 1 }) :
    StockMove s₀ s₂ (Market.linesUnits (done ++ [l])) := by
  have put := stockMove_write found nonneg
  rw [← written] at put
  refine (moved.trans put).congr fun id _ => ?_
  by_cases same : id = l.1
  · subst same
    simp [Market.linesUnits]
  · simp [Market.linesUnits, same, Ne.symm same]

theorem stockOf_of_not_mem {s : Store} {id : String} (absent : id ∉ s.productIds) :
    s.stockOf id = 0 := by
  simp only [productIds, List.mem_map, not_exists, not_and] at absent
  have none : s.products.find? (·.id == id) = none :=
    List.find?_eq_none.2 fun p member => by simpa using absent p member
  simp [stockOf, none]

/-- A move by nothing keeps the stock of every product, stored or not, and everything in the
store but the products' records. -/
theorem StockMove.kept {s s' : Store} (move : StockMove s s' 0) :
    { s' with products := s.products } = s ∧ s'.productIds = s.productIds ∧
      ∀ id, s'.stockOf id = s.stockOf id := by
  refine ⟨by rw [move.frame], move.ids_eq, fun id => ?_⟩
  by_cases stored : id ∈ s.productIds
  · simpa using move.stock_eq id stored
  · have absent : id ∉ s'.productIds := move.ids_eq ▸ stored
    rw [stockOf_of_not_mem stored, stockOf_of_not_mem absent]

/-- Putting back the units of some lines after taking them leaves every stock as it was. -/
theorem StockMove.put_back {s₀ s₁ s₂ : Store} {lines : List (String × Int)}
    (taken : StockMove s₀ s₁ fun id => -Market.linesUnits lines id)
    (back : StockMove s₁ s₂ (Market.linesUnits lines)) : StockMove s₀ s₂ 0 :=
  (taken.trans back).congr fun id _ => by simp

end Store

namespace Settings

/-- The ledger's configured number of attempts lets it make at least one. -/
def AllowsAttempt (s : Settings) : Prop :=
  match s.stockConflictMaxAttempts with
  | .int n => 0 < n
  | .bool b => b = true
  | _ => False

end Settings

namespace Market

/-- The outcomes planned for the next compare-and-swap calls on a product: those of the first plan
for it, as `nextPlanned` reads them. -/
def plannedFor (plans : List (String × List Bool)) (id : String) : List Bool :=
  ((plans.find? (·.1 == id)).map (·.2)).getD []

theorem plannedFor_spend_of_ne (plans : List (String × List Bool)) {id other : String}
    (rest : List Bool) (ne : other ≠ id) :
    plannedFor (plans.map fun kv => if kv.1 == id then (kv.1, rest) else kv) other =
      plannedFor plans other := by
  induction plans with
  | nil => rfl
  | cons kv more ih =>
    -- the spent plans keep every key, so the search for `other` passes the same entries
    by_cases named : kv.1 = other
    · simp [plannedFor, named, ne]
    · by_cases spent : kv.1 = id <;> simp_all [plannedFor]

theorem plannedFor_spend_self {plans : List (String × List Bool)} {id k : String} {b : Bool}
    {rest : List Bool} (found : plans.find? (·.1 == id) = some (k, b :: rest)) :
    plannedFor (plans.map fun kv => if kv.1 == id then (kv.1, rest) else kv) id = rest := by
  induction plans with
  | nil => simp at found
  | cons kv more ih =>
    by_cases spent : kv.1 = id <;> simp_all [plannedFor]

theorem plannedFor_of_find? {plans : List (String × List Bool)} {id k : String}
    {outcomes : List Bool} (found : plans.find? (·.1 == id) = some (k, outcomes)) :
    plannedFor plans id = outcomes := by
  simp [plannedFor, found]

theorem plannedFor_eq_nil {plans : List (String × List Bool)} {id : String}
    (unplanned : ∀ k b rest, plans.find? (·.1 == id) ≠ some (k, b :: rest)) :
    plannedFor plans id = [] := by
  unfold plannedFor
  rcases found : plans.find? (·.1 == id) with _ | ⟨k, _ | ⟨b, rest⟩⟩
  · simp [found]
  · simp [found]
  · exact absurd found (unplanned k b rest)

/-- No product has a call planned to lose after one planned to run: each product's planned
outcomes are in order, losses first. -/
def LossesFirst (plans : List (String × List Bool)) : Prop :=
  ∀ id, (plannedFor plans id).Pairwise (· ≤ ·)

/-- Plans under which every compare-and-swap call on the products `clear` runs: no product has a
loss planned after a run, and none is planned at all for those products. -/
structure Calm (plans : List (String × List Bool)) (clear : List String) : Prop where
  lossesFirst : LossesFirst plans
  unplanned : ∀ id ∈ clear, false ∉ plannedFor plans id

/-- Plans are calm for no products exactly when no loss is planned after a run. -/
@[simp] theorem calm_nil {plans : List (String × List Bool)} :
    Calm plans [] ↔ LossesFirst plans :=
  ⟨Calm.lossesFirst, fun first => ⟨first, by simp⟩⟩

namespace Calm

variable {plans : List (String × List Bool)} {ids : List String}

theorem of_subset (calm : Calm plans ids) {ids' : List String} (sub : ids' ⊆ ids) :
    Calm plans ids' :=
  ⟨calm.lossesFirst, fun id member => calm.unplanned id (sub member)⟩

/-- A product with no loss planned can be counted among the clear ones. -/
theorem cons (calm : Calm plans ids) {id : String} (clear : false ∉ plannedFor plans id) :
    Calm plans (id :: ids) := by
  refine ⟨calm.lossesFirst, fun other member => ?_⟩
  rcases List.mem_cons.1 member with rfl | cleared
  · exact clear
  · exact calm.unplanned other cleared

variable {id k : String} {b : Bool} {rest : List Bool}

theorem spend (calm : Calm plans ids) (found : plans.find? (·.1 == id) = some (k, b :: rest)) :
    Calm (plans.map fun kv => if kv.1 == id then (kv.1, rest) else kv) ids := by
  have planned := plannedFor_of_find? found
  constructor
  · intro other
    by_cases same : other = id
    · subst same
      rw [plannedFor_spend_self found]
      exact (planned ▸ calm.lossesFirst other).of_cons
    · rw [plannedFor_spend_of_ne plans rest same]
      exact calm.lossesFirst other
  · intro other member
    by_cases same : other = id
    · subst same
      rw [plannedFor_spend_self found]
      exact fun lost => calm.unplanned other member (planned ▸ List.mem_cons_of_mem b lost)
    · rw [plannedFor_spend_of_ne plans rest same]
      exact calm.unplanned other member

/-- Once a call on a product runs as planned, losses first leaves it no loss planned. -/
theorem spend_run (calm : Calm plans ids)
    (found : plans.find? (·.1 == id) = some (k, true :: rest)) :
    Calm (plans.map fun kv => if kv.1 == id then (kv.1, rest) else kv) (id :: ids) := by
  have ordered := plannedFor_of_find? found ▸ calm.lossesFirst id
  refine (calm.spend found).cons ?_
  rw [plannedFor_spend_self found]
  exact fun lost => absurd (List.rel_of_pairwise_cons ordered lost) (by decide)

theorem not_mem_of_lost (calm : Calm plans ids)
    (found : plans.find? (·.1 == id) = some (k, false :: rest)) : id ∉ ids := fun clear =>
  calm.unplanned id clear (by simp [plannedFor_of_find? found])

end Calm

@[simp] theorem linesUnits_nil_eq : linesUnits [] = 0 := rfl

theorem linesUnits_reverse (lines : List (String × Int)) (id : String) :
    linesUnits lines.reverse id = linesUnits lines id := by
  rw [linesUnits, linesUnits, List.map_reverse, List.sum_reverse]

/-- The lines whose stock a release can put back: each asks for at least one unit of a stored
product whose stock is not negative, and the settings allow an attempt. -/
def Restorable (st : Settings) (s : Store) (lines : List (String × Int)) : Prop :=
  ∀ l ∈ lines, st.AllowsAttempt ∧ 1 ≤ l.2 ∧
    ∃ p, s.products.find? (·.id == l.1) = some p ∧ 0 ≤ p.stock

@[simp] theorem restorable_nil (st : Settings) (s : Store) : Restorable st s [] := by
  simp [Restorable]

/-- Writing a product with a stock that is not negative keeps every line restorable. -/
theorem Restorable.putProduct {st : Settings} {s : Store} {lines : List (String × Int)}
    (ready : Restorable st s lines)
    {p : Product} (nonneg : 0 ≤ p.stock) : Restorable st (s.putProduct p) lines := by
  intro l member
  obtain ⟨allowed, atLeastOne, old, found, oldNonneg⟩ := ready l member
  refine ⟨allowed, atLeastOne, ?_⟩
  by_cases same : l.1 = p.id
  · exact ⟨p, by simp [same, find?_upsert_self], nonneg⟩
  · exact ⟨old, by simpa [find?_upsert_of_ne _ _ same] using found, oldNonneg⟩

/-- Taking `q` units of a stored product keeps the lines restorable, and the line that took them
restorable too. -/
theorem Restorable.reserve_then {st : Settings} {s : Store} {done : List (String × Int)}
    (ready : Restorable st s done) {productId : String} {q : Int} {p : Product}
    (allowed : st.AllowsAttempt) (atLeastOne : 1 ≤ q)
    (found : s.products.find? (·.id == productId) = some p) (covered : q ≤ p.stock) :
    Restorable st (s.putProduct { p with stock := p.stock - q, version := p.version + 1 })
      (done ++ [(productId, q)]) := by
  have named := id_of_find?_product found
  have nonneg : 0 ≤ p.stock - q := by omega
  intro l member
  rcases List.mem_append.1 member with old | new
  · exact ready.putProduct nonneg l old
  · obtain rfl : l = (productId, q) := by simpa using new
    refine ⟨allowed, atLeastOne, { p with stock := p.stock - q, version := p.version + 1 }, ?_,
      nonneg⟩
    rw [putProduct_products, ← named]
    exact find?_upsert_self { p with stock := p.stock - q, version := p.version + 1 } s.products

section Calm

variable (ids : List String) (st : Settings) (s : Store)

/-- Under calm plans, the next planned outcome of a call is a loss only for a product that is not
clear, and a call that is not planned to lose leaves its product clear. -/
theorem nextPlanned_calm (productId : String) :
    ⦃fun m => ⌜m.store = s ∧ m.settings = st ∧ Calm m.plans ids⌝⦄ nextPlanned productId
    ⦃⇓ r m => ⌜m.store = s ∧ m.settings = st ∧
      if r = some false then Calm m.plans ids ∧ productId ∉ ids
      else Calm m.plans (productId :: ids)⌝⦄ := by
  mvcgen [nextPlanned, -nextPlanned_spec]
  case vc1.h_1 m atStart k b rest found =>
    obtain ⟨stored, settled, calm⟩ := atStart
    refine ⟨stored, settled, ?_⟩
    cases b with
    | false => exact ⟨calm.spend found, calm.not_mem_of_lost found⟩
    | true => simpa using calm.spend_run found
  case vc2.h_2 m atStart next unplanned found =>
    obtain ⟨stored, settled, calm⟩ := atStart
    refine ⟨stored, settled, ?_⟩
    subst found
    simpa using calm.cons (by simp [plannedFor_eq_nil unplanned])

/-- Under calm plans, a compare-and-swap over the version just read writes and leaves its product
clear, or loses without writing, which it never does on a clear product. -/
theorem compareAndSwap_calm (productId : String) (p : Product) (n : Int) :
    ⦃fun m => ⌜m.store = s ∧ m.settings = st ∧ Calm m.plans ids ∧
      s.products.find? (·.id == productId) = some p ∧ 0 ≤ n⌝⦄
    compareAndSwap productId (.int p.version) (.int n)
    ⦃post⟨fun wrote m => ⌜m.settings = st ∧
        if wrote then m.store = s.putProduct { p with stock := n, version := p.version + 1 } ∧
          Calm m.plans (productId :: ids)
        else m.store = s ∧ Calm m.plans ids ∧ productId ∉ ids⌝,
      fun _ _ => ⌜False⌝⟩⦄ := by
  mvcgen [compareAndSwap, -compareAndSwap_spec, -nextPlanned_spec, nextPlanned_calm]
  case vc8 =>
    -- the new stock is a whole number that is not negative, so the check passes
    rename_i _ atStart _ _ q read _ negative _ _ _ _
    obtain ⟨-, -, -, -, nonneg⟩ := atStart
    cases read
    simp only [Quantity.lt_whole, decide_eq_true_eq] at negative
    omega
  case vc13 | vc14 =>
    -- a whole number is a quantity
    rename_i _ _ _ _ _ notQuantity read _ _ _ _
    exact absurd read.symm (notQuantity _)
  -- the planned loss, the write, and the refusals that the product stored under the version read
  -- rules out
  all_goals simp_all [Quantity.ofJson?, versionMatches_int, Product.assign_stock, Quantity.lt_whole,
    @eq_comm Quantity (.whole n)]

/-- The number of attempts the ledger is configured to make, read when none is given. -/
theorem attemptsOf_null_spec (m₀ : Market) :
    ⦃fun m => ⌜m = m₀⌝⦄ attemptsOf .null
    ⦃post⟨fun n m => ⌜m = m₀ ∧ (0 < n ↔ m₀.settings.AllowsAttempt)⌝,
      fun _ m => ⌜m = m₀ ∧ ¬m₀.settings.AllowsAttempt⌝⟩⦄ := by
  mvcgen [attemptsOf, -attemptsOf_spec]
  all_goals simp_all +zetaDelta [Json.truthy, Settings.AllowsAttempt]
  -- a truth value configured as the number of attempts: one for true, none for false
  split <;> simp_all

/-- Under calm plans, taking out a whole quantity writes at the first attempt that does not lose,
and leaves its product clear. -/
theorem reserve_go_calm (productId : String) (quantity : Json) (q : Int) (k : Nat) :
    ⦃fun m => ⌜m.store = s ∧ m.settings = st ∧ Calm m.plans ids⌝⦄
    reserve.go productId quantity (.whole q) k
    ⦃post⟨fun p m => ⌜0 < k ∧ s.products.find? (·.id == productId) = some p ∧ q ≤ p.stock ∧
        m.store = s.putProduct { p with stock := p.stock - q, version := p.version + 1 } ∧
        m.settings = st ∧ Calm m.plans (productId :: ids)⌝,
      fun _ m => ⌜m.store = s ∧ m.settings = st ∧ Calm m.plans ids⌝⟩⦄ := by
  -- on the number of attempts left; an attempt that loses leaves the store for the next one
  induction k with
  | zero =>
    mvcgen [reserve.go]
    all_goals simp_all
  | succ k ih =>
    rw [reserve.go]
    simp only [Quantity.subFrom, Quantity.toJson]
    mvcgen [ih, compareAndSwap_calm, -compareAndSwap_spec]
    case vc9 =>
      -- the swap wrote the product read, whose stock covered the quantity, and left it clear
      rename_i _ atStart p covered _ read _ winning _ swapped
      obtain ⟨stored, settled, -⟩ := atStart
      obtain ⟨rfl, found, named⟩ := read
      subst winning stored named
      rw [if_pos rfl] at swapped
      obtain ⟨kept, written, calm⟩ := swapped
      refine ⟨Nat.succ_pos k, found, ?_, written, kept.trans settled, calm⟩
      simpa [Quantity.lt_whole] using covered
    -- a refusal, or a lost swap that leaves the store and the plans for the next attempt
    all_goals simp_all [Quantity.lt_whole]

/-- Under calm plans, taking out `q` units: `q` is at least one, the settings allow an attempt,
the product is stored and its stock covered `q`, the stock is written less `q` and the product is
left clear. -/
theorem reserve_calm (productId : String) (q : Int) :
    ⦃fun m => ⌜m.store = s ∧ m.settings = st ∧ Calm m.plans ids⌝⦄ reserve productId (.int q)
    ⦃post⟨fun p m => ⌜1 ≤ q ∧ st.AllowsAttempt ∧ s.products.find? (·.id == productId) = some p ∧
        q ≤ p.stock ∧
        m.store = s.putProduct { p with stock := p.stock - q, version := p.version + 1 } ∧
        m.settings = st ∧ Calm m.plans (productId :: ids)⌝,
      fun _ m => ⌜m.store = s ∧ m.settings = st ∧ Calm m.plans ids⌝⟩⦄ := by
  simp only [reserve, checkQuantity_int]
  have tried := reserve_go_calm ids st s productId (.int q) q
  mvcgen [attemptsOf_null_spec, -attemptsOf_spec, tried]
  all_goals simp_all

/-- Under calm plans, putting back units of a clear product writes them at the first attempt. -/
theorem restore_go_calm (productId : String) (q : Int) (p : Product) (n : Nat) :
    ⦃fun m => ⌜m.store = s ∧ m.settings = st ∧ Calm m.plans ids ∧ productId ∈ ids ∧ 0 < n ∧
      s.products.find? (·.id == productId) = some p ∧ 0 ≤ p.stock + q⌝⦄
    restore.go productId (.whole q) n
    ⦃post⟨fun _ m =>
        ⌜m.store = s.putProduct { p with stock := p.stock + q, version := p.version + 1 } ∧
          m.settings = st ∧ Calm m.plans ids⌝,
      fun _ _ => ⌜False⌝⟩⦄ := by
  cases n with
  | zero => intro m holds; simp at holds
  | succ k =>
    rw [restore.go]
    simp only [Quantity.addTo, Quantity.toJson]
    mvcgen [compareAndSwap_calm, -compareAndSwap_spec]
    case vc1 =>
      -- the product is stored
      rename_i _ atStart _ _ _ read
      obtain ⟨stored, -, -, -, -, found, -⟩ := atStart
      obtain ⟨rfl, missing, -⟩ := read
      rw [stored, found] at missing
      cases missing
    case vc4 =>
      -- the swap wrote the product read, which was clear and stays so
      rename_i _ atStart _ p' _ _ read _ winning _ swapped
      obtain ⟨stored, settled, -, -, -, found, -⟩ := atStart
      obtain ⟨rfl, found', -⟩ := read
      subst winning stored
      rw [if_pos rfl] at swapped
      obtain ⟨kept, written, calm⟩ := swapped
      obtain rfl : p' = p := Option.some.inj (found'.symm.trans found)
      exact ⟨written, kept.trans settled, calm.of_subset (List.subset_cons_self _ _)⟩
    case vc5 =>
      -- a swap loses only on a product that is not clear, and this one is
      rename_i _ atStart _ p' _ _ read _ losing
      obtain ⟨-, -, -, clear, -⟩ := atStart
      obtain ⟨-, -, named⟩ := read
      intro m _ swapped
      rw [if_neg losing] at swapped
      exact absurd (named p' rfl ▸ clear) swapped.2.2
    -- the swap is called on the product read, under the plans as they were
    all_goals simp_all

/-- Under calm plans, putting back at least one unit of a clear product, stored with a stock that
is not negative, writes them. -/
theorem restore_calm (productId : String) (q : Int) :
    ⦃fun m => ⌜m.store = s ∧ m.settings = st ∧ Calm m.plans ids ∧ productId ∈ ids ∧
      st.AllowsAttempt ∧ 1 ≤ q ∧ ∃ p, s.products.find? (·.id == productId) = some p ∧ 0 ≤ p.stock⌝⦄
    restore productId (.int q)
    ⦃post⟨fun _ m => ⌜(∃ p, s.products.find? (·.id == productId) = some p ∧ 0 ≤ p.stock ∧
        m.store = s.putProduct { p with stock := p.stock + q, version := p.version + 1 }) ∧
        m.settings = st ∧ Calm m.plans ids⌝,
      fun _ _ => ⌜False⌝⟩⦄ := by
  intro m ⟨atStart, settled, calm, clear, allowed, atLeastOne, p, found, nonneg⟩
  simp only [restore, checkQuantity_int]
  have tried := restore_go_calm ids st s productId q p
  mvcgen [attemptsOf_null_spec, -attemptsOf_spec, tried]
  all_goals simp_all
  -- what is left is arithmetic: the quantity is at least one and the stock stays not negative
  all_goals omega

/-- Under calm plans that leave the reserved products clear, the release puts back the stock of
every reserved line. -/
theorem release_calm (reserved : List (String × Int)) :
    ⦃fun m => ⌜m.store = s ∧ m.settings = st ∧ Calm m.plans (reserved.map (·.1)) ∧
      Restorable st s reserved⌝⦄
    release reserved
    ⦃post⟨fun _ m => ⌜StockMove s m.store (linesUnits reserved)⌝, fun _ _ => ⌜False⌝⟩⦄ := by
  have restored := restore_calm (reserved.map (·.1)) st
  mvcgen [release, -release_spec, -restore_spec, restored] invariants
  · ⇓ step m => ⌜StockMove s m.store (linesUnits step.fst.prefix) ∧ m.settings = st ∧
      Calm m.plans (reserved.map (·.1)) ∧ Restorable st m.store reserved⌝
  case vc1.step.pre pref cur suff split _ m inv =>
    obtain ⟨-, settled, calm, ready⟩ := inv
    have member : cur ∈ reserved := List.mem_reverse.1 (by simp [split])
    obtain ⟨allowed, atLeastOne, found⟩ := ready cur member
    exact ⟨trivial, settled, calm, List.mem_map_of_mem member, allowed, atLeastOne, found⟩
  case vc2.step.post.success pref cur suff split _ m₁ inv _ m₂ restored =>
    obtain ⟨moved, -, -, ready⟩ := inv
    obtain ⟨⟨p, found, nonneg, written⟩, settled, calm⟩ := restored
    have member : cur ∈ reserved := List.mem_reverse.1 (by simp [split])
    have atLeastOne := (ready cur member).2.1
    refine ⟨moved.restore_then found (by omega) written, settled, calm, ?_⟩
    rw [written]
    exact ready.putProduct (by simp; omega)
  case vc3.pre m atStart =>
    obtain ⟨stored, settled, calm, ready⟩ := atStart
    rw [stored]
    exact ⟨(StockMove.refl s).congr (by simp), settled, calm, ready⟩
  case vc4.post.success m inv =>
    exact inv.1.congr fun id _ => linesUnits_reverse reserved id

/-- Under calm plans, taking stock line after line, after the lines `done`, moves each product's
stock down by the units the lines ask for, and leaves every line taken restorable and its product
clear; when a line cannot be taken, the stock of `done` is put back and nothing else moved. -/
theorem reserveAll_calm (lines : List (String × Int)) :
    ∀ (done : List (String × Int)) (s : Store),
    ⦃fun m => ⌜m.store = s ∧ m.settings = st ∧ Calm m.plans (done.map (·.1)) ∧
      Restorable st s done⌝⦄
    reserveAll done lines
    ⦃post⟨fun _ m => ⌜StockMove s m.store (fun id => -linesUnits lines id) ∧ m.settings = st ∧
        Calm m.plans ((done ++ lines).map (·.1)) ∧ Restorable st m.store (done ++ lines)⌝,
      fun _ m => ⌜StockMove s m.store (linesUnits done)⌝⟩⦄ := by
  -- on the lines left; the stock taken so far is what a failure later has to put back
  induction lines with
  | nil =>
    intro done s
    mvcgen [reserveAll]
    rename_i m atStart
    obtain ⟨stored, settled, calm, ready⟩ := atStart
    rw [stored, List.append_nil]
    exact ⟨(StockMove.refl s).congr (by simp), settled, calm, ready⟩
  | cons line rest ih =>
    intro done s
    obtain ⟨productId, q⟩ := line
    have taking := reserve_calm (done.map (·.1)) st s productId q
    have releasing := release_calm st s done
    mvcgen [reserveAll, taking, releasing, ih, -reserve_spec, -release_spec]
    case vc1.cons.pre m atStart => exact ⟨atStart.1, atStart.2.1, atStart.2.2.1⟩
    case vc2.cons.post.success.pre m₀ atStart p m₁ taken =>
      obtain ⟨atLeastOne, allowed, found, covered, written, settled, calm⟩ := taken
      refine ⟨trivial, settled, calm.of_subset (by simp), ?_⟩
      rw [written]
      exact atStart.2.2.2.reserve_then allowed atLeastOne found covered
    case vc3.cons.post.success.post.success m₀ atStart p m₁ taken ps m₂ restTaken =>
      obtain ⟨-, -, found, covered, written, -⟩ := taken
      obtain ⟨restMoved, settled, calm, ready⟩ := restTaken
      simp only [List.append_assoc, List.singleton_append] at calm ready
      exact ⟨StockMove.reserve_then found covered written restMoved, settled, calm, ready⟩
    case vc4.cons.post.success.post.except.handle m₀ atStart p m₁ taken e m₂ =>
      obtain ⟨-, -, found, covered, written, -⟩ := taken
      intro laterReleased
      -- the line taken here is among the lines a later failure puts back
      have took : StockMove s m₁.store fun id => -linesUnits [(productId, q)] id :=
        StockMove.reserve_then found covered written ((StockMove.refl _).congr (by simp))
      refine (took.trans laterReleased).congr fun id _ => ?_
      simp only [Pi.add_apply, linesUnits_append]
      ring
    case vc5.cons.post.except.handle.pre m₀ atStart e m₁ failed =>
      exact ⟨failed.1, failed.2.1, failed.2.2, atStart.2.2.2⟩

theorem settle_unchanged_of_fail (c : Checkout) (shipping billing : Json) (coupon : Option Coupon)
    (lines : List (Product × Int)) (m₀ : Market) :
    ⦃fun m => ⌜m = m₀⌝⦄ settle c shipping billing coupon lines
    ⦃post⟨fun _ _ => ⌜True⌝, fun _ m => ⌜m = m₀⌝⟩⦄ := by
  mvcgen [settle]
  all_goals simp_all

/-- Without a loss planned after a run, a placement that fails has put back all the stock it
took: every product's stock is as before, and nothing else in the store has changed. -/
theorem placeOrder_calm (c : Checkout) (shipping billing lines : Json) (s₀ : Store) :
    ⦃fun m => ⌜m.store = s₀ ∧ m.settings = st ∧ LossesFirst m.plans⌝⦄
    placeOrder c shipping billing lines
    ⦃post⟨fun _ _ => ⌜True⌝, fun _ m => ⌜StockMove s₀ m.store 0⌝⟩⦄ := by
  have taking := reserveAll_calm st
  have releasing := release_calm st
  mvcgen [placeOrder, taking, releasing, settle_unchanged_of_fail, -release_spec] invariants
  · post⟨fun _ m => ⌜m.store = s₀ ∧ m.settings = st ∧ LossesFirst m.plans⌝,
      fun _ m => ⌜StockMove s₀ m.store 0⌝⟩
  case vc9 =>
    -- settling failed after the stock was taken, and the release put it back
    rename_i _ _ _ _ _ _ m invariant _ _ coupon _ _ taken _ _ same _ _ released
    obtain ⟨stored, -, -⟩ := invariant
    obtain ⟨rfl, -⟩ := coupon
    subst same stored
    exact taken.1.put_back released
  -- the other failures come before any stock is taken, or take none
  all_goals simp_all [StockMove.refl]

/-- Without a loss planned after a run, a checkout that fails has put back all the stock it took. -/
theorem checkoutCart_calm (c : Checkout) (s₀ : Store) :
    ⦃fun m => ⌜m.store = s₀ ∧ m.settings = st ∧ LossesFirst m.plans⌝⦄ checkoutCart c
    ⦃post⟨fun _ _ => ⌜True⌝, fun _ m => ⌜StockMove s₀ m.store 0⌝⟩⦄ := by
  have placing := placeOrder_calm st
  mvcgen [checkoutCart, placing]
  all_goals simp_all [StockMove.refl]

end Calm

theorem Request.placeOrder_restores (given : Field.Given) (s₀ : Store) :
    ⦃fun m => ⌜m.store = s₀⌝⦄ (Request.placeOrder given).run
    ⦃post⟨fun _ _ => ⌜True⌝, fun _ m => ⌜m.store = s₀⌝⟩⦄ := by
  mvcgen [Request.run, Command.placeOrder_spec]
  all_goals simp_all

theorem Request.checkoutCart_restores (given : Field.Given) (s₀ : Store) :
    ⦃fun m => ⌜m.store = s₀⌝⦄ (Request.checkoutCart given).run
    ⦃post⟨fun _ _ => ⌜True⌝, fun _ m => ⌜m.store = s₀⌝⟩⦄ := by
  mvcgen [Request.run, Command.checkoutCart_spec]
  all_goals simp_all

/-- Placing an order is atomic. A request to place an order or to check out a cart that fails,
whatever the cause, leaves the store as it was: no order is stored, no coupon is used and every
product's stock is as before. Inside, the unit of work is not needed for the stock: unless a
competing writer is planned to win after losing, the placement itself puts back the stock of
every line it took before it fails, and has changed nothing else in the store. -/
theorem failed_placement_keeps_stock :
    (∀ (given : Field.Given) (m : Market) (e : Fault) (m' : Market),
      run (Request.placeOrder given).run m = (.error e, m') → m'.store = m.store) ∧
    (∀ (given : Field.Given) (m : Market) (e : Fault) (m' : Market),
      run (Request.checkoutCart given).run m = (.error e, m') → m'.store = m.store) ∧
    (∀ (c : Checkout) (shipping billing lines : Json) (m : Market) (e : Fault) (m' : Market),
      LossesFirst m.plans → run (placeOrder c shipping billing lines) m = (.error e, m') →
      { m'.store with products := m.store.products } = m.store ∧
        m'.store.productIds = m.store.productIds ∧ ∀ id, m'.store.stockOf id = m.store.stockOf id) ∧
    (∀ (c : Checkout) (m : Market) (e : Fault) (m' : Market),
      LossesFirst m.plans → run (checkoutCart c) m = (.error e, m') →
      { m'.store with products := m.store.products } = m.store ∧
        m'.store.productIds = m.store.productIds ∧
        ∀ id, m'.store.stockOf id = m.store.stockOf id) := by
  refine ⟨fun given m e m' failed => ?_, fun given m e m' failed => ?_,
    fun c shipping billing lines m e m' first failed => ?_, fun c m e m' first failed => ?_⟩
  · have ran := run_of_triple (P := fun m' => m'.store = m.store) rfl
      (Request.placeOrder_restores given m.store)
    simpa [failed] using ran
  · have ran := run_of_triple (P := fun m' => m'.store = m.store) rfl
      (Request.checkoutCart_restores given m.store)
    simpa [failed] using ran
  · have ran := run_of_triple ⟨rfl, rfl, first⟩
      (placeOrder_calm m.settings c shipping billing lines m.store)
    simp only [failed] at ran
    exact ran.kept
  · have ran := run_of_triple ⟨rfl, rfl, first⟩ (checkoutCart_calm m.settings c m.store)
    simp only [failed] at ran
    exact ran.kept

/-- Three wool rugs of `seller-2` at 120.00. -/
def woolRug : Product where
  id := "rug"
  name := "Wool Rug"
  price := 120.0
  stock := 3
  version := 0
  sellerId := some "seller-2"
  active := true
  approved := true

/-- The sample shop with the rugs too, where a competing writer wins the next three
compare-and-swaps on the rugs: every attempt a reservation makes. -/
def contestedShop : Market where
  store := { lampShop.store with products := lampShop.store.products ++ [woolRug] }
  plans := [("rug", [false, false, false])]

/-- An order of two lamps and a rug. -/
def lampAndRugOrder : Field.Given :=
  [("customer_id", .str "c1"),
   ("shipping_address", .str ("\x7b\"street\": \"12 Market Street\", \"city\": \"Springfield\", " ++
     "\"zip_code\": \"62701\", \"country\": \"US\"\x7d")),
   ("items", .str ("[\x7b\"product_id\": \"lamp\", \"quantity\": 2\x7d, " ++
     "\x7b\"product_id\": \"rug\", \"quantity\": 1\x7d]"))]

/-- Placing two lamps and a rug takes the lamps, then loses every attempt at the rug: it fails with
a stock conflict and leaves the shop as it was, lamps included. -/
theorem contested_placement_keeps_stock :
    (run (Request.placeOrder lampAndRugOrder).run contestedShop).1 =
      .error (.stockConflict "Stock for product rug changed concurrently, please retry") ∧
    (run (Request.placeOrder lampAndRugOrder).run contestedShop).2.store = contestedShop.store := by
  have refused : (run (Request.placeOrder lampAndRugOrder).run contestedShop).1 =
      .error (.stockConflict "Stock for product rug changed concurrently, please retry") := by
    decide +kernel
  exact ⟨refused, failed_placement_keeps_stock.1 lampAndRugOrder contestedShop _ _
    (run_eq_of_outcome refused)⟩

end Market

end Bazaar
