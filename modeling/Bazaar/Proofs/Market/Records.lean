import Mathlib
import Bazaar.Market.Request

/-!
# Records by identifier

Orders, products, carts and coupons are stored in place of the records with their identifier, or
after the others when none has it: an upsert by key. This file gives the lookups after such a
write, and shows that placed orders are numbered: the `k`-th stored order has the identifier of the
`k`-th order placed. A new order therefore never takes the place of an old one, and no two orders
share an identifier.
-/

namespace Bazaar

namespace Generated

private theorem token_toList (g : Generated) :
    g.token.toList = [mark, g.letter] ++ Nat.toDigits 10 g.number ++ [mark] := by
  simp [token, String.toList_ofList, Nat.toList_repr]

/-- Distinct orders get distinct identifiers. -/
theorem order_token_injective : Function.Injective fun n => (order n).token := by
  intro first second sameToken
  have sameChars := congrArg String.toList sameToken
  simp only [token_toList, letter, number, List.cons_append, List.cons.injEq, true_and,
    List.append_cancel_right_eq, List.nil_append] at sameChars
  calc first = Nat.ofDigitChars 10 (Nat.toDigits 10 first) 0 := Nat.ofDigitChars_ten_toDigits.symm
    _ = Nat.ofDigitChars 10 (Nat.toDigits 10 second) 0 := by rw [sameChars]
    _ = second := Nat.ofDigitChars_ten_toDigits

end Generated

section Upsert

variable {α : Type} (key : α → String)

/-- Puts `x` in place of the elements with its key, or after them all when none has it. -/
def upsert (x : α) (l : List α) : List α :=
  if l.any (key · == key x) then l.map fun q => if key q == key x then x else q
  else l ++ [x]

variable {key}

theorem any_of_find?_eq_some {p : α → Bool} {l : List α} {x : α} (found : l.find? p = some x) :
    l.any p = true :=
  List.any_eq_true.2 ⟨x, List.mem_of_find?_eq_some found, List.find?_some found⟩

theorem upsert_of_any {x : α} {l : List α} (stored : l.any (key · == key x) = true) :
    upsert key x l = l.map fun q => if key q == key x then x else q := by
  simp only [upsert, stored, ↓reduceIte]

theorem upsert_of_not_mem {x : α} {l : List α} (fresh : ∀ q ∈ l, key q ≠ key x) :
    upsert key x l = l ++ [x] := by
  have absent : l.any (key · == key x) = false := by simpa using fresh
  simp only [upsert, absent, Bool.false_eq_true, ↓reduceIte]

/-- An element of an upsert is the new one or an old one. -/
theorem mem_upsert {x q : α} {l : List α} (member : q ∈ upsert key x l) : q = x ∨ q ∈ l := by
  unfold upsert at member
  split at member
  · obtain ⟨old, oldMember, replaced⟩ := List.mem_map.1 member
    by_cases sameKey : key old = key x
    · simp [sameKey] at replaced
      exact .inl replaced.symm
    · simp [sameKey] at replaced
      exact .inr (replaced ▸ oldMember)
  · simpa [or_comm] using member

/-- After an upsert of `x`, the first element with its key is `x`. -/
theorem find?_upsert_self (x : α) (l : List α) :
    (upsert key x l).find? (key · == key x) = some x := by
  unfold upsert
  split
  · next stored =>
    induction l with
    | nil => simp at stored
    | cons q rest ih =>
      by_cases sameKey : key q = key x
      · simp [sameKey]
      · have storedRest : rest.any (key · == key x) = true := by simpa [sameKey] using stored
        simpa [sameKey] using ih storedRest
  · next absent =>
    have none : l.find? (key · == key x) = none := by simpa [List.find?_eq_none] using absent
    simp [List.find?_append, none]

/-- An upsert of `x` leaves what is found under another key. -/
theorem find?_upsert_of_ne (x : α) (l : List α) {k : String} (other : k ≠ key x) :
    (upsert key x l).find? (key · == k) = l.find? (key · == k) := by
  unfold upsert
  split
  · clear ‹_›
    induction l with
    | nil => rfl
    | cons q rest restEq =>
      by_cases sameKey : key q = key x
      · -- `q` is replaced by `x`, and neither has the key `k`
        have skipX : (key x == k) = false := by simpa using Ne.symm other
        simp only [List.map_cons, sameKey, beq_self_eq_true, ↓reduceIte, List.find?_cons, skipX,
          restEq]
      · have keep : (key q == key x) = false := by simpa using sameKey
        simp only [List.map_cons, keep, Bool.false_eq_true, ↓reduceIte, List.find?_cons, restEq]
  · simp [List.find?_append, Ne.symm other]

/-- The new element is among the elements of an upsert. -/
theorem mem_upsert_self (x : α) (l : List α) : x ∈ upsert key x l :=
  List.mem_of_find?_eq_some (find?_upsert_self x l)

/-- An upsert keeps every element under another key. -/
theorem mem_upsert_of_mem {x q : α} {l : List α} (member : q ∈ l) (other : key q ≠ key x) :
    q ∈ upsert key x l := by
  unfold upsert
  split
  · exact List.mem_map.2 ⟨q, member, by simp [other]⟩
  · exact List.mem_append_left _ member

/-- An element of an upsert other than the new one is an old one under another key. -/
theorem mem_upsert_of_ne {x q : α} {l : List α} (member : q ∈ upsert key x l) (other : q ≠ x) :
    q ∈ l ∧ key q ≠ key x := by
  unfold upsert at member
  split at member
  · obtain ⟨old, oldMember, replaced⟩ := List.mem_map.1 member
    by_cases sameKey : key old = key x
    · simp [sameKey] at replaced
      exact absurd replaced.symm other
    · simp [sameKey] at replaced
      exact replaced ▸ ⟨oldMember, sameKey⟩
  · rename_i absent
    have oldMember : q ∈ l := by simpa [other] using member
    exact ⟨oldMember, fun sameKey => absent (List.any_eq_true.2 ⟨q, oldMember, by simp [sameKey]⟩)⟩

/-- An upsert of an element whose key is stored keeps the keys and their order. -/
theorem map_key_upsert_of_any {x : α} {l : List α} (stored : l.any (key · == key x) = true) :
    (upsert key x l).map key = l.map key := by
  rw [upsert_of_any stored, List.map_map]
  apply List.map_congr_left
  intro q _
  by_cases sameKey : key q = key x <;> simp [sameKey]

/-- An upsert keeps the keys in their places, and a new key comes after them all. -/
theorem map_key_prefix_upsert (x : α) (l : List α) : l.map key <+: (upsert key x l).map key := by
  by_cases stored : l.any (key · == key x) = true
  · rw [map_key_upsert_of_any stored]
  · have fresh : ∀ q ∈ l, key q ≠ key x := by simpa using stored
    rw [upsert_of_not_mem fresh, List.map_append]
    exact List.prefix_append _ _

/-- An upsert keeps every stored key. -/
theorem key_mem_upsert {x : α} {l : List α} {k : String} (stored : k ∈ l.map key) :
    k ∈ (upsert key x l).map key := by
  by_cases present : l.any (key · == key x) = true
  · rwa [map_key_upsert_of_any present]
  · rw [upsert_of_not_mem (by simpa using present), List.map_append]
    exact List.mem_append_left _ stored

/-- With keys that are all different, an upsert under the key of a stored element changes a sum
over the elements by the new element's term less the old one's. -/
theorem sum_map_upsert_of_nodup (f : α → Int) {x old : α} {l : List α}
    (distinct : (l.map key).Nodup) (oldMember : old ∈ l) (sameKey : key x = key old) :
    ((upsert key x l).map f).sum + f old = (l.map f).sum + f x := by
  have stored : l.any (key · == key x) = true :=
    List.any_eq_true.2 ⟨old, oldMember, by simp [sameKey]⟩
  rw [upsert_of_any stored]
  clear stored
  induction l with
  | nil => simp at oldMember
  | cons q rest ih =>
    rw [List.map_cons, List.nodup_cons] at distinct
    obtain ⟨notInRest, restDistinct⟩ := distinct
    by_cases replaced : key q = key x
    · -- `q` is the old element, and no other element has its key
      have isOld : q = old := by
        rcases List.mem_cons.1 oldMember with same | inRest
        · exact same.symm
        · exact absurd (List.mem_map.2 ⟨old, inRest, by rw [replaced, sameKey]⟩) notInRest
      have restKept : (rest.map fun r => if key r == key x then x else r) = rest := by
        conv_rhs => rw [← List.map_id rest]
        apply List.map_congr_left
        intro r member
        have otherKey : key r ≠ key x := fun same =>
          notInRest (List.mem_map.2 ⟨r, member, same.trans replaced.symm⟩)
        simp [otherKey]
      subst isOld
      simp only [List.map_cons, replaced, beq_self_eq_true, ↓reduceIte, restKept, List.sum_cons]
      omega
    · have oldInRest : old ∈ rest := by
        rcases List.mem_cons.1 oldMember with same | inRest
        · exact absurd (same ▸ sameKey.symm) replaced
        · exact inRest
      have restSum := ih restDistinct oldInRest
      have keep : (key q == key x) = false := by simpa using replaced
      simp only [List.map_cons, keep, Bool.false_eq_true, ↓reduceIte, List.sum_cons]
      omega

end Upsert

attribute [ext] Store

namespace Store

variable {s : Store}

/-- Writing a product leaves everything but the products. -/
theorem putProduct_eq (s : Store) (p : Product) :
    s.putProduct p = { s with products := upsert Product.id p s.products } := by
  unfold putProduct upsert; split <;> rfl

/-- Writing an order leaves everything but the orders. -/
theorem putOrder_eq (s : Store) (o : Order) :
    s.putOrder o = { s with orders := upsert Order.id o s.orders } := by
  unfold putOrder upsert; split <;> rfl

/-- Writing a cart leaves everything but the carts. -/
theorem putCart_eq (s : Store) (c : Cart) :
    s.putCart c = { s with carts := upsert Cart.id c s.carts } := by
  unfold putCart upsert; split <;> rfl

/-- Writing a coupon leaves everything but the coupons. -/
theorem putCoupon_eq (s : Store) (c : Coupon) :
    s.putCoupon c = { s with coupons := upsert Coupon.id c s.coupons } := by
  unfold putCoupon upsert; split <;> rfl

@[simp] theorem putProduct_products (s : Store) (p : Product) :
    (s.putProduct p).products = upsert Product.id p s.products := by
  rw [putProduct_eq]

@[simp] theorem putOrder_orders (s : Store) (o : Order) :
    (s.putOrder o).orders = upsert Order.id o s.orders := by
  rw [putOrder_eq]

@[simp] theorem putOrder_products (s : Store) (o : Order) :
    (s.putOrder o).products = s.products := by
  rw [putOrder_eq]

@[simp] theorem putOrder_payments (s : Store) (o : Order) :
    (s.putOrder o).payments = s.payments := by
  rw [putOrder_eq]

@[simp] theorem putOrder_carts (s : Store) (o : Order) : (s.putOrder o).carts = s.carts := by
  rw [putOrder_eq]

@[simp] theorem putProduct_orders (s : Store) (p : Product) :
    (s.putProduct p).orders = s.orders := by
  rw [putProduct_eq]

@[simp] theorem putProduct_payments (s : Store) (p : Product) :
    (s.putProduct p).payments = s.payments := by
  rw [putProduct_eq]

@[simp] theorem putCart_orders (s : Store) (c : Cart) : (s.putCart c).orders = s.orders := by
  rw [putCart_eq]

@[simp] theorem putCart_products (s : Store) (c : Cart) : (s.putCart c).products = s.products := by
  rw [putCart_eq]

@[simp] theorem putCart_payments (s : Store) (c : Cart) : (s.putCart c).payments = s.payments := by
  rw [putCart_eq]

@[simp] theorem putCoupon_orders (s : Store) (c : Coupon) : (s.putCoupon c).orders = s.orders := by
  rw [putCoupon_eq]

@[simp] theorem putCoupon_products (s : Store) (c : Coupon) :
    (s.putCoupon c).products = s.products := by
  rw [putCoupon_eq]

@[simp] theorem putCoupon_payments (s : Store) (c : Coupon) :
    (s.putCoupon c).payments = s.payments := by
  rw [putCoupon_eq]

@[simp] theorem putCoupon_carts (s : Store) (c : Coupon) : (s.putCoupon c).carts = s.carts := by
  rw [putCoupon_eq]

@[simp] theorem putCoupon_inbox (s : Store) (c : Coupon) : (s.putCoupon c).inbox = s.inbox := by
  rw [putCoupon_eq]

@[simp] theorem putCoupon_coupons (s : Store) (c : Coupon) :
    (s.putCoupon c).coupons = upsert Coupon.id c s.coupons := by
  rw [putCoupon_eq]

@[simp] theorem putOrder_inbox (s : Store) (o : Order) : (s.putOrder o).inbox = s.inbox := by
  rw [putOrder_eq]

@[simp] theorem putOrder_coupons (s : Store) (o : Order) : (s.putOrder o).coupons = s.coupons := by
  rw [putOrder_eq]

/-- A store that differs from another at most in its inbox has all its other fields. -/
theorem fields_of_with_inbox {s t : Store} {inbox : List Notice} (same : { s with inbox } = t) :
    s.products = t.products ∧ s.coupons = t.coupons ∧ s.carts = t.carts ∧ s.orders = t.orders ∧
      s.payments = t.payments := by
  subst same
  simp

/-- A store that differs from another at most in its carts has all its other fields. -/
theorem fields_of_with_carts {s t : Store} {carts : List Cart} (same : { s with carts } = t) :
    s.products = t.products ∧ s.coupons = t.coupons ∧ s.orders = t.orders ∧
      s.payments = t.payments ∧ s.inbox = t.inbox := by
  subst same
  simp

/-! ## Numbered orders -/

/-- The identifier the `k`-th placed order gets, counting from zero. -/
def orderToken (k : Nat) : String :=
  (Generated.order (k + 1)).token

/-- The stored orders are the placed ones, in the order they were placed: the `k`-th has the
identifier of the `k`-th placement. -/
def OrdersNumbered (s : Store) : Prop :=
  s.orders.map (·.id) = (List.range s.orders.length).map orderToken

theorem ordersNumbered_of_orders_nil (none : s.orders = []) : s.OrdersNumbered := by
  simp [OrdersNumbered, none]

theorem ordersNumbered_of_orders_eq {s s' : Store} (same : s'.orders = s.orders)
    (numbered : s.OrdersNumbered) : s'.OrdersNumbered := by
  unfold OrdersNumbered
  rw [same]
  exact numbered

/-- Numbered orders have distinct identifiers. -/
theorem OrdersNumbered.nodup (numbered : s.OrdersNumbered) : (s.orders.map (·.id)).Nodup := by
  rw [numbered]
  refine (List.nodup_range).map ?_
  intro first second sameToken
  exact Nat.succ_injective (Generated.order_token_injective sameToken)

/-- The identifier of the next placement is not taken. -/
theorem OrdersNumbered.next_fresh (numbered : s.OrdersNumbered) :
    ∀ q ∈ s.orders, q.id ≠ orderToken s.orders.length := by
  intro q member taken
  have listed : orderToken s.orders.length ∈ (List.range s.orders.length).map orderToken := by
    rw [← numbered]
    exact List.mem_map.2 ⟨q, member, taken⟩
  obtain ⟨k, below, sameToken⟩ := List.mem_map.1 listed
  have := Nat.succ_injective (Generated.order_token_injective sameToken)
  simp only [List.mem_range] at below
  omega

/-- Writing an order under a stored identifier keeps the numbering. -/
theorem OrdersNumbered.putOrder_of_mem (numbered : s.OrdersNumbered) {o old : Order}
    (oldMember : old ∈ s.orders) (sameId : o.id = old.id) : (s.putOrder o).OrdersNumbered := by
  have stored : s.orders.any (·.id == o.id) = true :=
    List.any_eq_true.2 ⟨old, oldMember, by simp [sameId]⟩
  have sameLength : (s.putOrder o).orders.length = s.orders.length := by
    rw [putOrder_orders, upsert_of_any stored, List.length_map]
  unfold OrdersNumbered
  rw [sameLength, putOrder_orders, map_key_upsert_of_any stored]
  exact numbered

/-- Writing an order under the identifier of the next placement appends it and keeps the
numbering. -/
theorem OrdersNumbered.putOrder_next (numbered : s.OrdersNumbered) {o : Order}
    (next : o.id = orderToken s.orders.length) : (s.putOrder o).OrdersNumbered := by
  have appended : (s.putOrder o).orders = s.orders ++ [o] := by
    rw [putOrder_orders, upsert_of_not_mem]
    rw [next]
    exact numbered.next_fresh
  unfold OrdersNumbered
  rw [appended, List.length_append, List.length_singleton, List.range_succ, List.map_append,
    List.map_append, numbered]
  simp [next]

end Store

end Bazaar
