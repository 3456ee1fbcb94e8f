import Mathlib
import Bazaar.Proofs.Market.Access
import Bazaar.Proofs.Order.Snapshot

/-!
# Listings and access to orders

A customer lists their orders, and a seller the orders that hold one of their products. The access
checks say the same in another way: a customer owns an order whose customer is theirs, and a seller
may manage an order when they are among the sellers of its lines. The seller listing does not look
at the lines: it finds `|s|` in the order's seller text, which is `|`, then each seller followed by
`|`, built when the order was placed.

The two agree on a store whose seller texts are built from their orders' lines
(`Market.listings_agree_of_sellersBuilt`) for a customer and a seller whose identifiers are not
empty, when neither the seller nor any seller of a stored order has `|` in their identifier: every
order a customer lists is theirs, and the seller listing counts exactly the stored orders that the
seller may manage. The text search is decided by `delimited_infix_iff`: a name without the mark,
between two marks, occurs in such a text exactly when it is one of the names. Placing an order
builds its seller text and no later step writes it (`Market.sellers_stay_built`), so the two agree
on every store reached (`Market.listings_agree_with_access`).

Outside that case they differ. An empty identifier turns the filter off, so the listing shows every
order, and a seller identifier with `|` can span two sellers of one order.
-/

namespace Bazaar

/-! ## Texts of names between marks -/

section Delimited

variable {mark : Char}

/-- A run that starts with the mark and occurs in a text without the mark followed by more occurs
in what follows. -/
theorem infix_of_infix_append {p t w : List Char} (starts : p.head? = some mark) (free : mark ∉ t)
    (found : p <:+: t ++ w) : p <:+: w := by
  induction t with
  | nil => simpa using found
  | cons c t ih =>
    rw [List.cons_append, List.infix_cons_iff] at found
    rcases found with atFirst | later
    · -- the run would start at `c`, which is not the mark
      obtain ⟨q, rfl⟩ : ∃ q, p = mark :: q := by
        cases p with
        | nil => cases starts
        | cons a q => exact ⟨q, by simpa using starts⟩
      rw [List.cons_prefix_cons] at atFirst
      exact absurd (atFirst.1 ▸ List.mem_cons_self) free
    · exact ih (fun inRest => free (List.mem_cons_of_mem c inRest)) later

/-- A name without the mark, followed by the mark, begins another such name followed by the mark
only when the two names are the same. -/
theorem append_mark_prefix_iff {s t z : List Char} (sFree : mark ∉ s) (tFree : mark ∉ t) :
    s ++ [mark] <+: t ++ mark :: z ↔ s = t := by
  induction s generalizing t with
  | nil =>
    cases t with
    | nil => simp
    | cons b t =>
      -- `t` would begin with the mark
      simp only [List.nil_append, List.cons_append, List.cons_prefix_cons, List.nil_prefix,
        and_true, reduceCtorEq, iff_false]
      rintro rfl
      exact tFree List.mem_cons_self
  | cons a s ih =>
    cases t with
    | nil =>
      simp only [List.cons_append, List.nil_append, List.cons_prefix_cons, reduceCtorEq, iff_false,
        not_and]
      rintro rfl
      exact absurd List.mem_cons_self sFree
    | cons b t =>
      simp only [List.cons_append, List.cons_prefix_cons, List.cons.injEq]
      have restFree : mark ∉ s := fun inRest => sFree (List.mem_cons_of_mem a inRest)
      have tRestFree : mark ∉ t := fun inRest => tFree (List.mem_cons_of_mem b inRest)
      rw [ih restFree tRestFree]

/-- In a text that is the mark, then each of some names followed by the mark, a name between two
marks occurs exactly when it is one of the names, as long as no name has the mark in it. -/
theorem delimited_infix_iff {s : String} {names : List String} (sFree : mark ∉ s.toList)
    (namesFree : ∀ t ∈ names, mark ∉ t.toList) :
    mark :: (s.toList ++ [mark]) <:+: mark :: names.flatMap (fun t => t.toList ++ [mark]) ↔
      s ∈ names := by
  induction names with
  | nil =>
    -- the run has two marks, the text only one
    simp only [List.flatMap_nil, List.not_mem_nil, iff_false]
    intro found
    have := found.length_le
    simp at this
  | cons t rest ih =>
    have tFree := namesFree t List.mem_cons_self
    have restFree : ∀ u ∈ rest, mark ∉ u.toList := fun u inRest =>
      namesFree u (List.mem_cons_of_mem t inRest)
    rw [List.flatMap_cons, List.append_assoc, List.singleton_append, List.infix_cons_iff,
      List.cons_prefix_cons, append_mark_prefix_iff sFree tFree, String.toList_inj, List.mem_cons,
      ← ih restFree]
    -- at the first mark the run reads `t`; past `t` it starts at the next mark
    constructor
    · rintro (⟨-, same⟩ | later)
      · exact .inl same
      · exact .inr (infix_of_infix_append rfl tFree later)
    · rintro (same | later)
      · exact .inl ⟨rfl, same⟩
      · exact .inr (later.trans (List.suffix_append _ _).isInfix)

end Delimited

namespace Order

/-- The seller text built from an order's lines is the mark, then each seller followed by the
mark. -/
theorem sellerRefsOf_toList (o : Order) :
    (sellerRefsOf o.items).toList = '|' :: o.sellers.flatMap (fun t => t.toList ++ ['|']) := by
  show ("|" ++ String.join (o.sellers.map (· ++ "|"))).toList = _
  simp [String.toList_append, String.toList_join, List.flatMap_map]

end Order

namespace Market

/-- The search for a run of characters is the infix relation. -/
theorem occursIn_iff (needle hay : List Char) : occursIn needle hay = true ↔ needle <:+: hay := by
  induction hay with
  | nil => simp [occursIn, List.infix_nil]
  | cons c rest ih => simp [occursIn, List.infix_cons_iff, List.isPrefixOf_iff_prefix, ih]

/-- A seller filter admits an order whose seller text was built from its lines exactly when the
seller is one of its sellers, when neither has the mark in an identifier. -/
theorem admits_seller_iff {o : Order} {seller : String}
    (built : o.sellerRefs = Order.sellerRefsOf o.items) (plain : '|' ∉ seller.toList)
    (plainSellers : ∀ t ∈ o.sellers, '|' ∉ t.toList) :
    ({ seller := some seller } : OrderFilter).admits o = true ↔ seller ∈ o.sellers := by
  have searched : ("|" ++ seller ++ "|").toList = '|' :: (seller.toList ++ ['|']) := by simp
  simp only [OrderFilter.admits, Option.all_none, Option.all_some, Bool.true_and, Bool.and_true]
  rw [occursIn_iff, searched, built, Order.sellerRefsOf_toList]
  exact delimited_infix_iff plain plainSellers

/-- A seller may manage exactly the orders they are a seller of. -/
theorem run_ensureStaffCanManage_seller (o : Order) (seller : String) (m : Market) :
    run (ensureStaffCanManage o seller .seller) m = (.ok (), m) ↔ seller ∈ o.sellers := by
  by_cases member : seller ∈ o.sellers
  · simp [ensureStaffCanManage, member, run]
  · simp [ensureStaffCanManage, member, run, fail]

theorem run_ensureOwner_of_owned {o : Order} {customer : String} (m : Market)
    (owned : o.customerId = customer) : run (ensureOwner o customer) m = (.ok (), m) := by
  simp [ensureOwner, Order.isOwnedBy, Json.display, owned, run]

theorem mem_of_mem_slice {α : Type} {xs : List α} {start : Int} {stop : Option Int} {x : α}
    (member : x ∈ slice xs start stop) : x ∈ xs :=
  List.mem_of_mem_drop (List.mem_of_mem_take member)

/-- A search reads the store, writes nothing and answers a page of stored orders that pass the
filter, counting every stored order that passes it. -/
theorem run_searchOrders (f : OrderFilter) (offset limit : Json) (m : Market) :
    ∃ page, run (searchOrders f offset limit) m = (.ok page, m) ∧
      page.total = (m.store.orders.filter f.admits).length ∧
      ∀ o ∈ page.orders, o ∈ m.store.orders ∧ f.admits o = true :=
  ⟨_, rfl, by simp, fun _ listed => by simpa using mem_of_mem_slice listed⟩

/-- A customer with an identifier lists the orders of that customer. -/
theorem customerOrders_str {customer : String} (named : customer ≠ "")
    (status : Option OrderStatus) (offset limit : Json) :
    customerOrders (.str customer) status offset limit =
      searchOrders { customer := some customer, status } offset limit := by
  simp [customerOrders, Json.truthy, named, Json.display]

/-- A seller with an identifier lists the orders whose seller text names them. -/
theorem managedOrders_seller_str {seller : String} (named : seller ≠ "") (offset limit : Json) :
    managedOrders (.str seller) .seller none .null offset limit =
      searchOrders { seller := some seller } offset limit := by
  simp [managedOrders, Json.truthy, named, Json.display]

/-- On a store whose seller texts are built from their orders' lines, listings agree with the
access checks for identifiers that are not empty and have no `|`, as long as no seller of a stored
order has `|` in their identifier. -/
theorem listings_agree_of_sellersBuilt (m : Market) (built : m.store.SellersBuilt)
    (customer seller : String) (customerNamed : customer ≠ "") (sellerNamed : seller ≠ "")
    (plain : '|' ∉ seller.toList)
    (plainSellers : ∀ o ∈ m.store.orders, ∀ t ∈ o.sellers, '|' ∉ t.toList)
    (status : Option OrderStatus) (offset limit : Json) :
    (∃ page, run (customerOrders (.str customer) status offset limit) m = (.ok page, m) ∧
      ∀ o ∈ page.orders, run (ensureOwner o customer) m = (.ok (), m)) ∧
    (∃ page, run (managedOrders (.str seller) .seller none .null offset limit) m = (.ok page, m) ∧
      page.total = (m.store.orders.filter (·.sellers.contains seller)).length ∧
      ∀ o ∈ page.orders, run (ensureStaffCanManage o seller .seller) m = (.ok (), m)) ∧
    ∀ o : Order, run (ensureStaffCanManage o seller .seller) m = (.ok (), m) ↔ seller ∈ o.sellers := by
  -- on the stored orders, the seller filter is membership among the sellers
  have sameTest : ∀ o ∈ m.store.orders,
      ({ seller := some seller } : OrderFilter).admits o = o.sellers.contains seller := by
    intro o stored
    rw [Bool.eq_iff_iff, admits_seller_iff (built o stored) plain (plainSellers o stored),
      List.contains_iff_mem]
  refine ⟨?customers, ?sellers, fun o => run_ensureStaffCanManage_seller o seller m⟩
  case customers =>
    obtain ⟨page, ran, -, listed⟩ := run_searchOrders { customer := some customer, status } offset
      limit m
    refine ⟨page, customerOrders_str customerNamed status offset limit ▸ ran, fun o member => ?_⟩
    -- the customer filter compares the order's customer with the identifier
    have admitted := (listed o member).2
    simp only [OrderFilter.admits, Option.all_some, beq_iff_eq, Bool.and_eq_true] at admitted
    exact run_ensureOwner_of_owned m admitted.1.1
  case sellers =>
    obtain ⟨page, ran, counted, listed⟩ := run_searchOrders { seller := some seller } offset limit m
    refine ⟨page, managedOrders_seller_str sellerNamed offset limit ▸ ran,
      counted.trans (congrArg List.length (List.filter_congr sameTest)), fun o member => ?_⟩
    obtain ⟨stored, admitted⟩ := listed o member
    rw [run_ensureStaffCanManage_seller, ← List.contains_iff_mem, ← sameTest o stored]
    exact admitted

/-- Listings agree with the access checks along every run of requests and reconciliations from a
store whose seller texts are built from their orders' lines (an empty one, say), for identifiers
that are not empty and have no `|`: every order a customer lists, on any page and for any status,
is theirs; and the seller listing counts exactly the stored orders the seller is a seller of,
which are the orders the seller may manage, as long as no seller of a stored order has `|` in
their identifier. -/
theorem listings_agree_with_access {start m : Market} (built : start.store.SellersBuilt)
    (reached : Reachable (Sum.elim Request.run Reconciliation.run) start m)
    (customer seller : String) (customerNamed : customer ≠ "") (sellerNamed : seller ≠ "")
    (plain : '|' ∉ seller.toList)
    (plainSellers : ∀ o ∈ m.store.orders, ∀ t ∈ o.sellers, '|' ∉ t.toList)
    (status : Option OrderStatus) (offset limit : Json) :
    (∃ page, run (customerOrders (.str customer) status offset limit) m = (.ok page, m) ∧
      ∀ o ∈ page.orders, run (ensureOwner o customer) m = (.ok (), m)) ∧
    (∃ page, run (managedOrders (.str seller) .seller none .null offset limit) m = (.ok page, m) ∧
      page.total = (m.store.orders.filter (·.sellers.contains seller)).length ∧
      ∀ o ∈ page.orders, run (ensureStaffCanManage o seller .seller) m = (.ok (), m)) ∧
    ∀ o : Order, run (ensureStaffCanManage o seller .seller) m = (.ok (), m) ↔ seller ∈ o.sellers :=
  listings_agree_of_sellersBuilt m (sellers_stay_built built reached) customer seller customerNamed
    sellerNamed plain plainSellers status offset limit

/-- The order `ORD-1` of customer `c1` for a lamp of seller `a` and a rug of seller `b`, with the
seller text placing builds. -/
def lampAndRug : Order where
  id := "ORD-1"
  customerId := "c1"
  status := .pendingPayment
  paymentStatus := .pending
  paymentMethod := "CARD"
  items := [⟨some "p1", "Lamp", some "a", 1, 5.0, 5.0⟩, ⟨some "p2", "Rug", some "b", 1, 5.0, 5.0⟩]
  shipping := ⟨none, "s", "c", none, "z", "x", none⟩
  billing := ⟨none, "s", "c", none, "z", "x", none⟩
  total := 10.0
  discount := 0.0
  shippingFee := 0.0
  final := 10.0
  currency := "usd"
  couponId := none
  couponCode := none
  trackingNumber := none
  checkoutSessionId := none
  stockRestored := false
  sellerRefs := "|a|b|"

/-- A market holding that order: customer `c1` lists it and seller `a` manages it. -/
theorem listings_agree_with_access_on_a_placed_order :
    Store.SellersBuilt { orders := [lampAndRug] } ∧ "c1" ≠ "" ∧ "a" ≠ "" ∧ '|' ∉ "a".toList ∧
    (∀ o ∈ [lampAndRug], ∀ t ∈ o.sellers, '|' ∉ t.toList) ∧
    ((∃ page, run (customerOrders (.str "c1") none (.int 0) (.int 10))
        { store := { orders := [lampAndRug] } } =
        (.ok page, { store := { orders := [lampAndRug] } }) ∧
      ∀ o ∈ page.orders, run (ensureOwner o "c1") { store := { orders := [lampAndRug] } } =
        (.ok (), { store := { orders := [lampAndRug] } })) ∧
    (∃ page, run (managedOrders (.str "a") .seller none .null (.int 0) (.int 10))
        { store := { orders := [lampAndRug] } } =
        (.ok page, { store := { orders := [lampAndRug] } }) ∧
      page.total = ([lampAndRug].filter (·.sellers.contains "a")).length ∧
      ∀ o ∈ page.orders, run (ensureStaffCanManage o "a" .seller)
        { store := { orders := [lampAndRug] } } =
        (.ok (), { store := { orders := [lampAndRug] } })) ∧
    ∀ o : Order, run (ensureStaffCanManage o "a" .seller) { store := { orders := [lampAndRug] } } =
      (.ok (), { store := { orders := [lampAndRug] } }) ↔ "a" ∈ o.sellers) := by
  have built : Store.SellersBuilt { orders := [lampAndRug] } := by
    intro o stored
    rw [List.mem_singleton.1 stored]
    decide
  have plainSellers : ∀ o ∈ [lampAndRug], ∀ t ∈ o.sellers, '|' ∉ t.toList := by decide
  exact ⟨built, by decide, by decide, by decide, plainSellers,
    listings_agree_with_access built .start "c1" "a" (by decide) (by decide) (by decide)
      plainSellers none (.int 0) (.int 10)⟩

end Market

end Bazaar
