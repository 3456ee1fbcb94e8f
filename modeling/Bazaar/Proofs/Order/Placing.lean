import Mathlib
import Bazaar.Market.Request

/-!
# What placing an order builds

Placing computes its amounts and checks its fields in one long chain of steps that may fail. When
the chain succeeds, the order it builds carries the identifier it was given, awaits payment with
its payment pending, still has its stock out, and has the lines read from the placement. Each line
built from a product taken at checkout names that product and keeps the quantity taken.

The checks of a record's fields are combined applicatively; `Validation.Gives P v` says that
whatever `v` builds satisfies `P`, and follows the combination field by field.
-/

namespace Bazaar

/-- A chain of steps that succeeds ran its first step to a result. -/
theorem Except.bind_ok {ε α β : Type} {x : Except ε α} {f : α → Except ε β} {b : β}
    (h : (x >>= f) = .ok b) : ∃ a, x = .ok a ∧ f a = .ok b := by
  cases x with
  | error e => cases h
  | ok a => exact ⟨a, rfl, h⟩

/-- Mapping a failing function over a list succeeds exactly element by element. -/
theorem List.forall₂_of_mapM_ok {ε α β : Type} {f : α → Except ε β} :
    ∀ {xs : List α} {ys : List β}, xs.mapM f = .ok ys → List.Forall₂ (fun x y => f x = .ok y) xs ys
  | [], ys, mapped => by
    simp only [List.mapM_nil, pure, Except.pure, Except.ok.injEq] at mapped
    subst mapped
    exact .nil
  | x :: xs, ys, mapped => by
    rw [List.mapM_cons] at mapped
    obtain ⟨y, first, mapped⟩ := Except.bind_ok mapped
    obtain ⟨rest, restMapped, mapped⟩ := Except.bind_ok mapped
    cases mapped
    exact .cons first (forall₂_of_mapM_ok restMapped)

namespace Validation

variable {α β : Type}

/-- Everything the check `v` builds satisfies `P`. -/
def Gives (P : α → Prop) (v : Validation α) : Prop :=
  ∀ a, v = .ok a → P a

theorem Gives.ok {P : α → Prop} {v : Validation α} {a : α} (gives : Gives P v)
    (built : v = .ok a) : P a :=
  gives a built

theorem Gives.map {P : β → Prop} {f : α → β} {v : Validation α}
    (all : ∀ a, v = .ok a → P (f a)) : Gives P (f <$> v) := by
  intro b built
  cases v with
  | ok a =>
    simp only [Functor.map, Validation.map, ok.injEq] at built
    exact built ▸ all a rfl
  | failed ms => cases built

theorem Gives.seq {P : β → Prop} {vf : Validation (α → β)} {va : Validation α}
    (all : Gives (fun f => ∀ a, va = .ok a → P (f a)) vf) : Gives P (vf <*> va) := by
  intro b built
  cases vf with
  | ok f =>
    cases va with
    | ok a =>
      simp only [Seq.seq, Validation.apply, ok.injEq] at built
      exact built ▸ all f rfl a rfl
    | failed ms => cases built
  | failed ms => cases va <;> cases built

theorem toExcept_eq_ok {v : Validation α} {a : α} : v.toExcept = .ok a ↔ v = .ok a := by
  cases v <;> simp [toExcept]

end Validation

namespace Field

/-- An optional identifier of any length reads the display text of the value given, and nothing
for `null`. -/
theorem optional_identifier {given : Given} {name : String} {v : Json} {c : Option String}
    (found : lookup given name = some v) (read : optional given name (identifier 0) = .ok c) :
    c = if v.isNull then none else some v.display := by
  unfold optional at read
  rw [found] at read
  cases v <;> simp_all [identifier, text, Json.isNull, Json.display]

/-- A required field that passes its check read the value given for it. -/
theorem read_of_required {α : Type} {given : Given} {name : String} {read : Json → Except String α}
    {v : Json} {a : α} (found : lookup given name = some v) (checked : required given name read = .ok a) :
    read v = .ok a := by
  unfold required at checked
  rw [found] at checked
  cases reading : read v with
  | ok b =>
    simp only [reading, Validation.ok.injEq] at checked
    rw [checked]
  | error m => simp [reading, Validation.reject] at checked

/-- Text that passes its length bounds is read as it is. -/
theorem eq_of_text {least : Nat} {most : Option Nat} {s a : String}
    (read : text least most (.str s) = .ok a) : a = s := by
  unfold text at read
  by_cases short : s.length < least
  · simp [short] at read
  · cases most with
    | none => simpa [short] using read.symm
    | some n =>
      by_cases long : s.length > n
      · simp [short, long] at read
      · simpa [short, long] using read.symm

/-- A double that passes its lower bound is read as it is. -/
theorem eq_of_number {least : Option Int} {x a : Float} (read : number least (.float x) = .ok a) :
    a = x := by
  cases least with
  | none => simpa [number, number.read, bind, Except.bind] using read.symm
  | some b =>
    by_cases high : x ≥ Float.ofInt b
    · simpa [number, number.read, bind, Except.bind, high] using read.symm
    · simp [number, number.read, bind, Except.bind, high] at read

end Field

namespace Order

/-- The order that the field checks of a placement build, whatever the checked values. -/
private theorem validated_shape {id : String} {items : List OrderItem} {shipping billing : Address}
    {v₁ v₂ : Validation String} {v₃ v₄ v₅ v₆ : Validation Float} {v₇ : Validation String}
    {v₈ v₉ : Validation (Option String)} {v₁₀ : Validation String} {o : Order}
    (built : ((fun c pm t d f fin cur cid code r =>
      Order.mk id c .pendingPayment .pending pm items shipping billing t d f fin cur cid code
        none none false r) <$> v₁ <*> v₂ <*> v₃ <*> v₄ <*> v₅ <*> v₆ <*> v₇ <*> v₈ <*> v₉ <*> v₁₀
        ).toExcept = .ok o) :
    o.id = id ∧ o.status = .pendingPayment ∧ o.paymentStatus = .pending ∧ o.items = items ∧
      o.stockRestored = false ∧ v₈ = .ok o.couponId ∧ v₁₀ = .ok o.sellerRefs := by
  rw [Validation.toExcept_eq_ok] at built
  refine Validation.Gives.ok (P := fun o : Order => o.id = id ∧ o.status = .pendingPayment ∧
    o.paymentStatus = .pending ∧ o.items = items ∧ o.stockRestored = false ∧
    v₈ = .ok o.couponId ∧ v₁₀ = .ok o.sellerRefs) ?_ built
  -- one step per checked field, the first one mapped; the eighth checks the coupon and the tenth
  -- the seller text
  iterate 9 apply Validation.Gives.seq
  apply Validation.Gives.map
  intro _ _ _ _ _ _ _ _ _ _ _ _ _ _ couponId couponRead _ _ refs refsRead
  exact ⟨rfl, rfl, rfl, rfl, rfl, couponRead, refsRead⟩

/-- A placed order has the identifier it was given, awaits payment with its payment pending, has
its stock out, has the lines of the placement and the coupon it names, and has the seller text of
its lines. -/
theorem placed_of_place {id : String} {p : Placement} {o : Order} {ev : OrderEvent}
    (placed : place id p = .ok (o, ev)) :
    o.id = id ∧ o.status = .pendingPayment ∧ o.paymentStatus = .pending ∧
      o.stockRestored = false ∧ linesOf p.items = .ok o.items ∧
      o.couponId = (if p.couponId.isNull then none else some p.couponId.display) ∧
      o.sellerRefs = sellerRefsOf o.items := by
  unfold place at placed
  obtain ⟨items, linesRead, placed⟩ := Except.bind_ok placed
  -- the sum of the lines, the amounts and their decimals
  iterate 9 obtain ⟨_, -, placed⟩ := Except.bind_ok placed
  simp only at placed
  -- the final amount is rounded on one of two branches, and the rest is the same on both
  split at placed <;>
  · -- the addresses, then the order the field checks build
    iterate 3 obtain ⟨_, -, placed⟩ := Except.bind_ok placed
    obtain ⟨order, built, placed⟩ := Except.bind_ok placed
    obtain ⟨_, -, placed⟩ := Except.bind_ok placed
    split at placed
    · obtain ⟨_, -, placed⟩ := Except.bind_ok placed
      cases placed
      obtain ⟨sameId, awaiting, unpaid, sameItems, stockOut, couponRead, refsRead⟩ :=
        validated_shape built
      have sameRefs :=
        Field.eq_of_text (Field.read_of_required (by simp [Field.lookup]; rfl) refsRead)
      exact ⟨sameId, awaiting, unpaid, stockOut, sameItems ▸ linesRead,
        Field.optional_identifier (by simp [Field.lookup]) couponRead, sameItems ▸ sameRefs⟩
    · -- an order that breaks its rules is refused
      obtain ⟨_, refused, -⟩ := Except.bind_ok placed
      cases refused

end Order

namespace OrderItem

/-- An order line is a snapshot of a product taken in some quantity: it names the product, keeps
its name, its seller (none for an empty one) and its price rounded to cents, and holds the
quantity. -/
structure Snapshots (p : Product) (q : Int) (i : OrderItem) : Prop where
  product : i.productId = some p.id
  quantity : i.quantity = q
  name : i.productName = p.name
  seller : i.sellerId = p.sellerId.filter (!·.isEmpty)
  price : Money.roundFloat p.price = .ok i.price

/-- The line built for a product taken at checkout is a snapshot of the product. -/
theorem ofPurchase_snapshot {p : Product} {q : Int} {i : OrderItem}
    (built : ofPurchase (Market.purchaseOf p q) = .ok i) : Snapshots p q i := by
  unfold ofPurchase Market.purchaseOf at built
  obtain ⟨fields, given, built⟩ := Except.bind_ok built
  cases given
  simp only at built
  obtain ⟨name, nameGiven, built⟩ := Except.bind_ok built
  obtain ⟨quantity, quantityGiven, built⟩ := Except.bind_ok built
  obtain ⟨priceGiven, priceGivenEq, built⟩ := Except.bind_ok built
  obtain ⟨price, rounded, built⟩ := Except.bind_ok built
  -- the price's decimal, the count and the line's total
  iterate 4 obtain ⟨_, -, built⟩ := Except.bind_ok built
  simp [member, Field.lookup] at nameGiven quantityGiven priceGivenEq
  subst nameGiven quantityGiven
  -- the price given is the product's, as a double; substituting it would make the rounding compute
  have roundedPrice : Money.roundFloat p.price = .ok price := by
    rw [Money.roundFloat, priceGivenEq]
    exact rounded
  refine Validation.Gives.ok (P := Snapshots p q) ?_ (Validation.toExcept_eq_ok.1 built)
  iterate 5 apply Validation.Gives.seq
  apply Validation.Gives.map
  intro productId productChecked name nameChecked seller sellerChecked quantity quantityChecked
    price' priceChecked _ _
  simp [Field.optional, Field.lookup, Field.identifier, Field.text, Json.display] at productChecked
  simp [Field.required, Field.lookup, Field.integer, Field.integer.read, bind, Except.bind]
    at quantityChecked
  -- a quantity below one is refused, so the checked quantity is the one taken
  by_cases small : q < 1 <;> simp [small, Validation.reject] at quantityChecked
  have sameName := Field.eq_of_text (Field.read_of_required (by simp [Field.lookup]; rfl) nameChecked)
  have samePrice := Field.eq_of_number (Field.read_of_required (by simp [Field.lookup]; rfl) priceChecked)
  have sellerRead := Field.optional_identifier (by simp [Field.lookup]; rfl) sellerChecked
  have sameSeller : seller = p.sellerId.filter (!·.isEmpty) := by
    cases given : p.sellerId with
    | none => simpa [given, Json.isNull] using sellerRead
    | some s =>
      by_cases blank : s = "" <;>
        simpa [given, blank, Json.isNull, Json.display, Option.filter, String.isEmpty_iff]
          using sellerRead
  exact ⟨productChecked.symm, quantityChecked.symm, sameName, sameSeller, samePrice ▸ roundedPrice⟩

end OrderItem

namespace Order

/-- The lines read from the data of products taken at checkout are snapshots of the products
taken, one to one. -/
theorem linesOf_snapshots {taken : List (Product × Int)} {items : List OrderItem}
    (read : linesOf (.arr (taken.map fun l => Market.purchaseOf l.1 l.2)) = .ok items) :
    List.Forall₂ (fun l i => OrderItem.Snapshots l.1 l.2 i) taken items := by
  unfold linesOf at read
  split at read
  · cases read
  · have mapped := List.forall₂_of_mapM_ok read
    rw [List.forall₂_map_left_iff] at mapped
    exact mapped.imp fun _ _ built => OrderItem.ofPurchase_snapshot built

/-- The lines read from the data of products taken at checkout correspond one to one to the
products taken, each naming its product and keeping its quantity. -/
theorem linesOf_purchases {taken : List (Product × Int)} {items : List OrderItem}
    (read : linesOf (.arr (taken.map fun l => Market.purchaseOf l.1 l.2)) = .ok items) :
    List.Forall₂ (fun l i => i.productId = some l.1.id ∧ i.quantity = l.2) taken items :=
  (linesOf_snapshots read).imp fun _ _ snapshot => ⟨snapshot.product, snapshot.quantity⟩

end Order

end Bazaar
