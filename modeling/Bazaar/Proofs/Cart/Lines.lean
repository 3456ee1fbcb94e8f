import Mathlib
import Bazaar.Proofs.Market.Records

/-!
# Well-formed carts

A cart holds at most one line per product, each of at least one unit (`Cart.LinesWellFormed`), and
a store holds at most one cart per customer, the carts under distinct identifiers
(`Store.CartsWellFormed`). Each change of a cart's lines keeps its lines well formed, and writing
back a cart under the identifier of the customer's cart, or a new cart for a customer without one,
keeps the store's carts well formed.

The quantity a customer has of a product (`Store.quantityInCart`) is read from their cart, zero
without a line or a cart. Adding to a line adds to that quantity; setting a line sets it.
-/

namespace Bazaar

section Upsert

variable {α : Type} {key : α → String}

/-- An upsert keeps the values of a function distinct, when the only element with the new
element's value is the one it replaces. -/
theorem nodup_map_upsert {β : Type} (f : α → β) {x : α} {l : List α} (keys : (l.map key).Nodup)
    (values : (l.map f).Nodup) (owned : ∀ q ∈ l, f q = f x → key q = key x) :
    ((upsert key x l).map f).Nodup := by
  by_cases stored : l.any (key · == key x) = true
  · rw [upsert_of_any stored, List.map_map]
    refine (List.Nodup.of_map key keys).map_on ?_
    intro a aMember b bMember same
    -- the replaced elements all become `x`; the others keep their values
    by_cases aKey : key a = key x <;> by_cases bKey : key b = key x <;>
      simp only [Function.comp, aKey, bKey, beq_self_eq_true, ↓reduceIte, beq_iff_eq] at same
    · exact List.inj_on_of_nodup_map keys aMember bMember (aKey.trans bKey.symm)
    · exact absurd (owned b bMember same.symm) bKey
    · exact absurd (owned a aMember same) aKey
    · exact List.inj_on_of_nodup_map values aMember bMember same
  · have fresh : ∀ q ∈ l, key q ≠ key x := by simpa using stored
    rw [upsert_of_not_mem fresh, List.map_append, List.nodup_append]
    refine ⟨values, List.nodup_singleton _, ?_⟩
    intro a aMember b bMember same
    obtain ⟨q, member, rfl⟩ := List.mem_map.1 aMember
    rw [List.map_singleton, List.mem_singleton] at bMember
    exact fresh q member (owned q member (same.trans bMember))

/-- In a list whose elements have distinct values, the element found by its value is itself. -/
theorem find?_eq_of_nodup {β : Type} [BEq β] [LawfulBEq β] (f : α → β) {l : List α}
    (distinct : (l.map f).Nodup) {x : α} (member : x ∈ l) : l.find? (f · == f x) = some x := by
  induction l with
  | nil => cases member
  | cons y rest ih =>
    rw [List.map_cons, List.nodup_cons] at distinct
    by_cases same : f y = f x
    · have isX : y = x := by
        rcases List.mem_cons.1 member with rfl | later
        · rfl
        · exact absurd (same ▸ List.mem_map_of_mem later) distinct.1
      simp [isX]
    · have later : x ∈ rest := by
        rcases List.mem_cons.1 member with rfl | later
        · exact absurd rfl same
        · exact later
      simp [same, ih distinct.2 later]

end Upsert

namespace Cart

/-- At most one line per product, each of at least one unit. -/
structure LinesWellFormed (c : Cart) : Prop where
  distinct : (c.lines.map (·.productId)).Nodup
  positive : ∀ l ∈ c.lines, 1 ≤ l.quantity

variable {c c' : Cart} {productId : String} {quantity : Int}

theorem quantityOf_of_find? {l : CartLine}
    (found : c.lines.find? (·.productId == productId) = some l) :
    c.quantityOf productId = l.quantity := by
  simp [quantityOf, found]

theorem find?_of_holds (holding : c.holds productId = true) :
    ∃ l, c.lines.find? (·.productId == productId) = some l ∧ l.productId = productId := by
  obtain ⟨l, found⟩ :=
    Option.isSome_iff_exists.1 (List.find?_isSome.2 (List.any_eq_true.1 holding))
  exact ⟨l, found, by simpa using List.find?_some found⟩

theorem find?_of_not_holds (absent : c.holds productId = false) :
    c.lines.find? (·.productId == productId) = none := by
  simpa [holds, List.find?_eq_none] using absent

/-- Raising the line of a product that has one. -/
def raisedBy (productId : String) (quantity : Int) (l : CartLine) : CartLine :=
  if l.productId == productId then { l with quantity := l.quantity + quantity } else l

/-- Setting the line of a product that has one. -/
def setTo (productId : String) (quantity : Int) (l : CartLine) : CartLine :=
  if l.productId == productId then { l with quantity := quantity } else l

@[simp] theorem productId_raisedBy (l : CartLine) :
    (raisedBy productId quantity l).productId = l.productId := by
  unfold raisedBy; split <;> rfl

@[simp] theorem productId_setTo (l : CartLine) :
    (setTo productId quantity l).productId = l.productId := by
  unfold setTo; split <;> rfl

theorem addItem_eq_ok (added : c.addItem productId quantity = .ok c') :
    1 ≤ quantity ∧ c' = { c with
      lines := if c.holds productId then c.lines.map (raisedBy productId quantity)
        else c.lines ++ [⟨productId, quantity⟩] } := by
  unfold addItem at added
  by_cases small : quantity < 1
  · rw [if_pos small] at added
    cases added
  · rw [if_neg small] at added
    refine ⟨by omega, ?_⟩
    cases holding : c.holds productId <;>
      simp only [holding, Bool.false_eq_true, ↓reduceIte] at added ⊢ <;>
      exact (Except.ok.inj added).symm

theorem updateQuantity_eq_ok (updated : c.updateQuantity productId quantity = .ok c') :
    1 ≤ quantity ∧ c.holds productId = true ∧
      c' = { c with lines := c.lines.map (setTo productId quantity) } := by
  unfold updateQuantity at updated
  by_cases small : quantity < 1
  · rw [if_pos small] at updated
    cases updated
  · rw [if_neg small] at updated
    cases holding : c.holds productId
    · simp only [holding, Bool.not_false, ↓reduceIte] at updated
      cases updated
    · simp only [holding, Bool.not_true, Bool.false_eq_true, ↓reduceIte] at updated
      exact ⟨by omega, rfl, (Except.ok.inj updated).symm⟩

theorem removeItem_eq_ok (removed : c.removeItem productId = .ok c') :
    c' = { c with lines := c.lines.filter (·.productId != productId) } := by
  unfold removeItem at removed
  cases holding : c.holds productId <;> simp_all

/-- Adding to a cart adds to the quantity of the product and keeps the lines well formed. -/
theorem addItem_lines (lined : c.LinesWellFormed) (added : c.addItem productId quantity = .ok c') :
    c'.LinesWellFormed ∧ c'.quantityOf productId = c.quantityOf productId + quantity := by
  obtain ⟨atLeastOne, rfl⟩ := addItem_eq_ok added
  cases holding : c.holds productId
  · -- a new line, after the others, for a product none of them has
    have none := find?_of_not_holds holding
    refine ⟨⟨?_, ?_⟩, ?_⟩
    · simpa [List.nodup_append, holds] using And.intro lined.distinct holding
    · intro l member
      rcases List.mem_append.1 member with old | new
      · exact lined.positive l old
      · simp_all
    · simp [quantityOf, List.find?_append, none]
  · -- the product's line, and only it, is raised
    obtain ⟨l, found, sameId⟩ := find?_of_holds holding
    have raised : (c.lines.map (raisedBy productId quantity)).find? (·.productId == productId) =
        some (raisedBy productId quantity l) := by
      simp only [List.find?_map, Function.comp_def, productId_raisedBy, found, Option.map_some]
    refine ⟨⟨?_, ?_⟩, ?_⟩
    · simpa [List.map_map, Function.comp_def] using lined.distinct
    · intro l' member
      obtain ⟨old, oldMember, rfl⟩ := List.mem_map.1 member
      have positive := lined.positive old oldMember
      unfold raisedBy
      split <;> simp <;> omega
    · rw [if_pos rfl, quantityOf_of_find? raised, quantityOf_of_find? found]
      simp [raisedBy, sameId]

/-- Setting the line of a product sets its quantity and keeps the lines well formed. -/
theorem updateQuantity_lines (lined : c.LinesWellFormed)
    (updated : c.updateQuantity productId quantity = .ok c') :
    c'.LinesWellFormed ∧ c'.quantityOf productId = quantity := by
  obtain ⟨atLeastOne, holding, rfl⟩ := updateQuantity_eq_ok updated
  obtain ⟨l, found, sameId⟩ := find?_of_holds holding
  have set : (c.lines.map (setTo productId quantity)).find? (·.productId == productId) =
      some (setTo productId quantity l) := by
    simp only [List.find?_map, Function.comp_def, productId_setTo, found, Option.map_some]
  refine ⟨⟨?_, ?_⟩, ?_⟩
  · simpa [List.map_map, Function.comp_def] using lined.distinct
  · intro l' member
    obtain ⟨old, oldMember, rfl⟩ := List.mem_map.1 member
    unfold setTo
    split
    · exact atLeastOne
    · exact lined.positive old oldMember
  · rw [quantityOf_of_find? set]
    simp [setTo, sameId]

theorem removeItem_lines (lined : c.LinesWellFormed) (removed : c.removeItem productId = .ok c') :
    c'.LinesWellFormed := by
  obtain rfl := removeItem_eq_ok removed
  refine ⟨?_, fun l member => lined.positive l (List.mem_of_mem_filter member)⟩
  exact lined.distinct.sublist (List.filter_sublist.map _)

theorem clear_lines : c.clear.1.LinesWellFormed :=
  ⟨List.nodup_nil, fun _ member => by simp [clear] at member⟩

end Cart

/-- Carts under distinct identifiers, at most one per customer, each with well-formed lines. -/
structure CartsWellFormed (carts : List Cart) : Prop where
  ids : (carts.map (·.id)).Nodup
  owners : (carts.map (·.customerId)).Nodup
  lines : ∀ c ∈ carts, c.LinesWellFormed

namespace CartsWellFormed

variable {carts : List Cart} {c : Cart}

/-- Writing a cart keeps the carts well formed when its lines are, and no other cart has its
customer: it is the customer's cart written back, or a first cart for the customer. -/
theorem upsert (wf : CartsWellFormed carts)
    (owned : ∀ d ∈ carts, d.customerId = c.customerId → d.id = c.id)
    (lined : c.LinesWellFormed) : CartsWellFormed (upsert Cart.id c carts) := by
  refine ⟨nodup_map_upsert _ wf.ids wf.ids fun _ _ same => same,
    nodup_map_upsert _ wf.ids wf.owners owned, fun d member => ?_⟩
  rcases mem_upsert member with rfl | old
  · exact lined
  · exact wf.lines d old

/-- A first cart, empty, for a customer without one. -/
theorem upsert_new (wf : CartsWellFormed carts) (absent : ∀ d ∈ carts, d.customerId ≠ c.customerId)
    (empty : c.lines = []) : CartsWellFormed (Bazaar.upsert Cart.id c carts) :=
  wf.upsert (fun d stored sameOwner => absurd sameOwner (absent d stored))
    ⟨by simp [empty], by simp [empty]⟩

/-- The customer's cart written back, with its identifier and customer. -/
theorem upsert_of_mem {c' : Cart} (wf : CartsWellFormed carts) (member : c ∈ carts)
    (sameId : c'.id = c.id) (sameCustomer : c'.customerId = c.customerId)
    (lined : c'.LinesWellFormed) : CartsWellFormed (Bazaar.upsert Cart.id c' carts) := by
  refine wf.upsert (fun d stored sameOwner => ?_) lined
  have isC : d = c :=
    List.inj_on_of_nodup_map wf.owners stored member (sameOwner.trans sameCustomer)
  rw [isC, sameId]

end CartsWellFormed

namespace Store

/-- The quantity of a product in a customer's cart, zero without a cart or a line. -/
def quantityInCart (s : Store) (customerId productId : String) : Int :=
  match s.carts.find? (·.customerId == customerId) with
  | some c => c.quantityOf productId
  | none => 0

variable {s : Store} {c : Cart}

@[simp] theorem putCart_carts (s : Store) (c : Cart) :
    (s.putCart c).carts = upsert Cart.id c s.carts := by
  rw [putCart_eq]

@[simp] theorem putCart_coupons (s : Store) (c : Cart) : (s.putCart c).coupons = s.coupons := by
  rw [putCart_eq]

@[simp] theorem putCart_inbox (s : Store) (c : Cart) : (s.putCart c).inbox = s.inbox := by
  rw [putCart_eq]

theorem quantityInCart_of_find? {customerId : String}
    (found : s.carts.find? (·.customerId == customerId) = some c) (productId : String) :
    s.quantityInCart customerId productId = c.quantityOf productId := by
  simp [quantityInCart, found]

theorem quantityInCart_of_mem (wf : CartsWellFormed s.carts) (member : c ∈ s.carts)
    (productId : String) : s.quantityInCart c.customerId productId = c.quantityOf productId := by
  exact quantityInCart_of_find? (find?_eq_of_nodup Cart.customerId wf.owners member) productId

theorem quantityInCart_of_find?_none {customerId : String}
    (none : s.carts.find? (·.customerId == customerId) = none) (productId : String) :
    s.quantityInCart customerId productId = 0 := by
  simp [quantityInCart, none]

/-- The customer's cart written back with well-formed lines keeps the carts well formed, and the
customer's quantities are then read from those lines. -/
theorem putCart_lines {lines : List CartLine} (wf : CartsWellFormed s.carts) (member : c ∈ s.carts)
    (lined : ({ c with lines } : Cart).LinesWellFormed) :
    CartsWellFormed (s.putCart { c with lines }).carts ∧ ∀ productId,
      (s.putCart { c with lines }).quantityInCart c.customerId productId =
        ({ c with lines } : Cart).quantityOf productId := by
  have written : CartsWellFormed (s.putCart { c with lines }).carts := by
    rw [putCart_carts]
    exact wf.upsert_of_mem member rfl rfl lined
  have stored : ({ c with lines } : Cart) ∈ (s.putCart { c with lines }).carts := by
    rw [putCart_carts]
    exact mem_upsert_self _ _
  exact ⟨written, quantityInCart_of_mem written stored⟩

variable {c' : Cart} {productId : String} {quantity : Int}

/-- The customer's cart written back after adding to it: the customer's quantity of the product
grows by what was added. -/
theorem addItem_written (wf : CartsWellFormed s.carts) (member : c ∈ s.carts)
    (added : c.addItem productId quantity = .ok c') :
    CartsWellFormed (s.putCart c').carts ∧
      (s.putCart c').quantityInCart c.customerId productId = c.quantityOf productId + quantity := by
  obtain ⟨lined, raised⟩ := Cart.addItem_lines (wf.lines c member) added
  obtain ⟨-, rfl⟩ := Cart.addItem_eq_ok added
  obtain ⟨written, read⟩ := putCart_lines wf member lined
  exact ⟨written, (read productId).trans raised⟩

/-- The customer's cart written back after setting a line: the customer's quantity of the product
is the one set. -/
theorem updateQuantity_written (wf : CartsWellFormed s.carts) (member : c ∈ s.carts)
    (updated : c.updateQuantity productId quantity = .ok c') :
    CartsWellFormed (s.putCart c').carts ∧
      (s.putCart c').quantityInCart c.customerId productId = quantity := by
  obtain ⟨lined, set⟩ := Cart.updateQuantity_lines (wf.lines c member) updated
  obtain ⟨-, -, rfl⟩ := Cart.updateQuantity_eq_ok updated
  obtain ⟨written, read⟩ := putCart_lines wf member lined
  exact ⟨written, (read productId).trans set⟩

theorem removeItem_written (wf : CartsWellFormed s.carts) (member : c ∈ s.carts)
    (removed : c.removeItem productId = .ok c') : CartsWellFormed (s.putCart c').carts := by
  have lined := Cart.removeItem_lines (wf.lines c member) removed
  obtain rfl := Cart.removeItem_eq_ok removed
  exact (putCart_lines wf member lined).1

theorem clear_written (wf : CartsWellFormed s.carts) (member : c ∈ s.carts) :
    CartsWellFormed (s.putCart c.clear.1).carts :=
  (putCart_lines wf member Cart.clear_lines).1

end Store

end Bazaar
