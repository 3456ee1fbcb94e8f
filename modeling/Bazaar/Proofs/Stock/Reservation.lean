import Mathlib
import Bazaar.Proofs.Market.Records
import Bazaar.Proofs.Order.Placing

/-!
# Stock held by orders

An order holds the units of its lines until its stock is given back. `Store.reservedUnits s id`
counts the units of product `id` held by the stored orders whose stock is still out. Placing an
order adds its lines; writing an order back under its identifier changes the count by the
difference between the new and the old order, provided identifiers are not shared.
-/

namespace Bazaar

namespace OrderItem

/-- The units of a product that some order lines hold. -/
def unitsOf (items : List OrderItem) (id : String) : Int :=
  (items.map fun i => if i.productId = some id then i.quantity else 0).sum

/-- Lines that correspond one to one to products taken, each naming its product and keeping the
quantity, hold the units taken. -/
theorem unitsOf_of_forall₂ {taken : List (Product × Int)} {items : List OrderItem}
    (lines : List.Forall₂ (fun l i => i.productId = some l.1.id ∧ i.quantity = l.2) taken items)
    (id : String) :
    unitsOf items id = (taken.map fun l => if l.1.id = id then l.2 else 0).sum := by
  induction lines with
  | nil => rfl
  | cons same _ restUnits =>
    obtain ⟨named, kept⟩ := same
    simp only [unitsOf, List.map_cons, List.sum_cons] at restUnits ⊢
    simp only [restUnits, named, kept, Option.some.injEq]

end OrderItem

namespace Market

/-- The units of a product that merged lines ask for. -/
def linesUnits (lines : List (String × Int)) (id : String) : Int :=
  (lines.map fun l => if l.1 = id then l.2 else 0).sum

@[simp] theorem linesUnits_nil (id : String) : linesUnits [] id = 0 := rfl

theorem linesUnits_append (lines more : List (String × Int)) (id : String) :
    linesUnits (lines ++ more) id = linesUnits lines id + linesUnits more id := by
  simp [linesUnits]

/-- Products taken for merged lines, paired with the lines' quantities, hold the lines' units. -/
theorem units_zip_taken {taken : List Product} {lines : List (String × Int)}
    (named : taken.map (·.id) = lines.map (·.1)) (id : String) :
    ((taken.zip (lines.map (·.2))).map fun l => if l.1.id = id then l.2 else 0).sum =
      linesUnits lines id := by
  induction lines generalizing taken with
  | nil => simp [linesUnits]
  | cons line rest restUnits =>
    cases taken with
    | nil => simp at named
    | cons p ps =>
      simp only [List.map_cons, List.cons.injEq] at named
      obtain ⟨sameId, restNamed⟩ := named
      simp only [List.map_cons, List.zip_cons_cons, List.sum_cons, linesUnits] at restUnits ⊢
      rw [restUnits restNamed, sameId]

end Market

namespace Store

/-- The units of product `id` held by the stored orders whose stock is still out. -/
def reservedUnits (s : Store) (id : String) : Int :=
  (s.orders.map fun o => if o.stockRestored then 0 else OrderItem.unitsOf o.items id).sum

/-- The units an order holds: none once its stock is given back. -/
def heldBy (o : Order) (id : String) : Int :=
  if o.stockRestored then 0 else OrderItem.unitsOf o.items id

theorem reservedUnits_eq (s : Store) (id : String) :
    s.reservedUnits id = (s.orders.map fun o => heldBy o id).sum := rfl

theorem reservedUnits_of_orders_eq {s s' : Store} (same : s'.orders = s.orders) (id : String) :
    s'.reservedUnits id = s.reservedUnits id := by
  simp only [reservedUnits, same]

/-- A new order adds the units it holds. -/
theorem reservedUnits_putOrder_of_fresh {s : Store} {o : Order} (fresh : ∀ q ∈ s.orders, q.id ≠ o.id)
    (id : String) : (s.putOrder o).reservedUnits id = s.reservedUnits id + heldBy o id := by
  simp only [reservedUnits_eq, putOrder_orders, upsert_of_not_mem fresh, List.map_append,
    List.sum_append, List.map_cons, List.map_nil, List.sum_cons, List.sum_nil, add_zero]

/-- Writing an order back in place of a stored one changes the units held by the difference,
when no two orders share an identifier. -/
theorem reservedUnits_putOrder_of_mem {s : Store} {o old : Order}
    (distinct : (s.orders.map (·.id)).Nodup) (oldMember : old ∈ s.orders) (sameId : o.id = old.id)
    (id : String) :
    (s.putOrder o).reservedUnits id + heldBy old id = s.reservedUnits id + heldBy o id := by
  simp only [reservedUnits_eq, putOrder_orders]
  exact sum_map_upsert_of_nodup (fun q => heldBy q id) distinct oldMember sameId

end Store

end Bazaar
