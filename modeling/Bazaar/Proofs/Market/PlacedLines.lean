import Mathlib
import Bazaar.Proofs.Market.Placement
import Bazaar.Proofs.Coupon.Usage

/-!
# The lines of a placed order

A request's lines are read one by one, each as a product (the text of its `product_id`) and a
whole quantity, and then merged: one line per product, in the order the products first appear,
holding the sum of that product's quantities (`Market.foldl_mergeInto`). Stock is taken for the
merged lines, so each product is read once, as it is stored before the placement, and each line of
the order is a snapshot of that product: its identifier, name and seller, its price rounded to
cents, and the merged quantity.

Main statement: `Market.placement_postcondition`. A placement that succeeds has exactly those
lines and takes from each product's stock its merged quantity, leaving the other products' stock
alone; and a request in which some product's merged quantity exceeds its stock is refused before
anything is written, however the quantity is split over lines.
-/

open Std.Do

set_option mvcgen.warning false

namespace Bazaar

namespace Market

/-! ## Reading and merging lines -/

/-- A request line reads as a product and a quantity: it is an object whose `product_id` shows as
the product's text and whose `quantity` reads as a whole number. -/
def LineReads (line : Json) (l : String × Int) : Prop :=
  ∃ fields product quantity, line = .obj fields ∧ Field.lookup fields "product_id" = some product ∧
    Field.lookup fields "quantity" = some quantity ∧ l.1 = product.display ∧
    Json.asInteger quantity = .ok l.2

/-- A line reads as one product and quantity only. -/
theorem LineReads.unique {line : Json} {l l' : String × Int} (first : LineReads line l)
    (second : LineReads line l') : l = l' := by
  obtain ⟨fields, product, quantity, rfl, named, counted, shown, read⟩ := first
  obtain ⟨fields', product', quantity', same, named', counted', shown', read'⟩ := second
  cases same
  rw [named] at named'
  rw [counted] at counted'
  cases named'
  cases counted'
  exact Prod.ext (shown.trans shown'.symm) (Except.ok.inj (read.symm.trans read'))

theorem LineReads.forall₂_unique {lines : List Json} {parsed parsed' : List (String × Int)}
    (first : List.Forall₂ LineReads lines parsed) (second : List.Forall₂ LineReads lines parsed') :
    parsed = parsed' := by
  induction first generalizing parsed' with
  | nil => exact (List.forall₂_nil_left_iff.1 second).symm
  | cons reads _ ih =>
    obtain ⟨_, _, reads', rest', rfl⟩ := List.forall₂_cons_left_iff.1 second
    rw [reads.unique reads', ih rest']

/-- Reading a line writes nothing, and what it reads is the line's product and quantity. -/
theorem lineOf_reads (line : Json) (m₀ : Market) :
    ⦃fun m => ⌜m = m₀⌝⦄ lineOf line
    ⦃post⟨fun l m => ⌜m = m₀ ∧ LineReads line l⌝, fun _ m => ⌜m = m₀⌝⟩⦄ := by
  mvcgen [lineOf, -lineOf_spec]
  all_goals simp_all
  -- what is left: the line read is the product's text and the quantity's whole number
  rename_i fields _ product named quantity counted _ _ _ q _ _ _ read
  exact ⟨fields, product, quantity, rfl, named, counted, rfl, read.2.symm⟩

theorem linesUnits_cons (l : String × Int) (lines : List (String × Int)) (id : String) :
    linesUnits (l :: lines) id = (if l.1 = id then l.2 else 0) + linesUnits lines id := by
  simp [linesUnits]

/-- A product that no line names is asked for in no unit. -/
theorem linesUnits_of_not_mem {lines : List (String × Int)} {id : String}
    (absent : id ∉ lines.map (·.1)) : linesUnits lines id = 0 := by
  induction lines with
  | nil => rfl
  | cons l rest ih =>
    simp only [List.map_cons, List.mem_cons, not_or] at absent
    rw [linesUnits_cons, if_neg (Ne.symm absent.1), ih absent.2, add_zero]

/-- Merging lines one after another keeps one line per product, in the order the products first
appear, with the sum of the product's quantities. -/
theorem foldl_mergeInto (lines : List (String × Int)) :
    lines.foldl mergeInto [] =
      (lines.map (·.1)).eraseDups.map fun id => (id, linesUnits lines id) := by
  induction lines using List.reverseRecOn with
  | nil => rfl
  | append_singleton lines l ih =>
    rw [List.foldl_append, List.foldl_cons, List.foldl_nil, ih, List.map_append,
      List.map_singleton, List.eraseDups_append]
    by_cases seen : l.1 ∈ lines.map (·.1)
    · -- the product is merged into its line, and no new line is added
      have stored : ((lines.map (·.1)).eraseDups.map fun id => (id, linesUnits lines id)).any
          (·.1 == l.1) = true := by
        simpa [List.mem_eraseDups] using seen
      have none : [l.1].removeAll (lines.map (·.1)) = [] := by
        simp [List.removeAll, seen]
      simp only [mergeInto, stored, ↓reduceIte, none, List.eraseDups_nil, List.append_nil,
        List.map_map]
      refine List.map_congr_left fun id _ => ?_
      by_cases same : id = l.1
      · subst same
        simp [linesUnits]
      · simp [linesUnits, same, Ne.symm same]
    · -- a new product gets a line of its own, after the others
      have absent : ((lines.map (·.1)).eraseDups.map fun id => (id, linesUnits lines id)).any
          (·.1 == l.1) = false := by
        rw [List.any_eq_false]
        intro kv member same
        obtain ⟨id, listed, rfl⟩ := List.mem_map.1 member
        exact seen ((beq_iff_eq.1 same) ▸ List.mem_eraseDups.1 listed)
      have fresh : [l.1].removeAll (lines.map (·.1)) = [l.1] := by
        simp [List.removeAll, seen]
      simp only [mergeInto, absent, Bool.false_eq_true, ↓reduceIte, fresh, List.map_append]
      congr 1
      · refine List.map_congr_left fun id listed => ?_
        have other : l.1 ≠ id := fun same => seen (same ▸ List.mem_eraseDups.1 listed)
        simp [linesUnits, other]
      · simp [List.eraseDups_cons, linesUnits_append, linesUnits_of_not_mem seen, linesUnits_cons]

/-- The distinct products of some lines, in the order they first appear, are distinct. -/
theorem nodup_eraseDups (ids : List String) : ids.eraseDups.Nodup := by
  induction ids using List.reverseRecOn with
  | nil => exact List.nodup_nil
  | append_singleton ids id ih =>
    rw [List.eraseDups_append]
    by_cases seen : id ∈ ids
    · simpa [List.removeAll, seen] using ih
    · have fresh : [id].removeAll ids = [id] := by simp [List.removeAll, seen]
      rw [fresh, List.nodup_append]
      refine ⟨ih, by simp [List.eraseDups_cons], ?_⟩
      intro a listed b single
      simp [List.eraseDups_cons] at single
      rintro rfl
      exact seen (single ▸ List.mem_eraseDups.1 listed)

/-- Merging the lines of a list writes nothing; when it succeeds, every line read as a product
and a quantity, and the merged lines are those of the lines read. -/
theorem mergeLines_arr (lines : List Json) (m₀ : Market) :
    ⦃fun m => ⌜m = m₀⌝⦄ mergeLines (.arr lines)
    ⦃post⟨fun merged m => ⌜m = m₀ ∧ ∃ parsed, List.Forall₂ LineReads lines parsed ∧
        merged = parsed.foldl mergeInto []⌝, fun _ m => ⌜m = m₀⌝⟩⦄ := by
  have reads := lineOf_reads
  mvcgen [mergeLines, -mergeLines_spec, -lineOf_spec, reads] invariants
  · post⟨fun step m => ⌜m = m₀ ∧ ∃ parsed, List.Forall₂ LineReads step.fst.prefix parsed ∧
      step.snd = parsed.foldl mergeInto []⌝, fun _ m => ⌜m = m₀⌝⟩
  all_goals simp_all +zetaDelta
  -- what is left: one more line read and merged
  rename_i merged _ l _ _ _ _ _ before now
  obtain ⟨parsed, prefixReads, rfl⟩ := before.2
  exact ⟨parsed ++ [l], List.rel_append prefixReads (.cons now.2 .nil),
    by rw [List.foldl_append]; rfl⟩

/-! ## Taking stock and settling -/

/-- Stock taken for lines of distinct products reads each product as it was stored before the
first line was taken: a line's write touches no other line's product. -/
theorem reserveAll_reads (lines : List (String × Int)) :
    ∀ (done : List (String × Int)) (s₀ : Store),
    ⦃fun m => ⌜m.store = s₀ ∧ (lines.map (·.1)).Nodup⌝⦄ reserveAll done lines
    ⦃post⟨fun taken _ => ⌜List.Forall₂ (fun l p => s₀.products.find? (·.id == l.1) = some p)
        lines taken⌝, fun _ _ => ⌜True⌝⟩⦄ := by
  induction lines with
  | nil =>
    intro done s₀
    mvcgen [reserveAll]
    simp
  | cons line rest ih =>
    intro done s₀
    obtain ⟨productId, q⟩ := line
    mvcgen [reserveAll, ih]
    all_goals simp_all
    -- what is left: the later lines name other products, whose stored records the write kept
    rename_i p _ _ _ _ start reserved restRead
    obtain ⟨-, fresh, -⟩ := start
    obtain ⟨-, found, -, -⟩ := reserved
    have sameId := id_of_find?_product found
    have later : ∀ l ∈ rest, l.1 ≠ productId := fun l member same => fresh l.2 (same ▸ member)
    refine ((List.forall₂_and_left _ _).2 ⟨later, restRead⟩).imp fun l _ both => ?_
    obtain ⟨other, read⟩ := both
    rwa [find?_upsert_of_ne _ _ (sameId ▸ other)] at read

/-- Settling taken lines places an order whose lines are snapshots of the products taken. -/
theorem settle_snapshots (c : Checkout) (shipping billing : Json) (coupon : Option Coupon)
    (lines : List (Product × Int)) (s₀ : Store) :
    ⦃fun m => ⌜m.store = s₀⌝⦄ settle c shipping billing coupon lines
    ⦃post⟨fun o _ => ⌜List.Forall₂ (fun l i => OrderItem.Snapshots l.1 l.2 i) lines o.items⌝,
      fun _ _ => ⌜True⌝⟩⦄ := by
  mvcgen [settle]
  all_goals simp_all
  all_goals
    obtain ⟨-, -, -, -, -, read, -⟩ := ‹_ ∧ _ ∧ _ ∧ _ ∧ _ ∧ Order.linesOf _ = _ ∧ _›
    exact Order.linesOf_snapshots read

/-! ## The placed order -/

/-- The line of a placed order for the product `id`: a snapshot of the product stored under `id`,
holding the units that the request's lines ask for. -/
def ItemOf (s : Store) (parsed : List (String × Int)) (id : String) (i : OrderItem) : Prop :=
  ∃ p, s.products.find? (·.id == id) = some p ∧ OrderItem.Snapshots p (linesUnits parsed id) i

/-- Products read one per identifier, then built into lines holding each product's units, give
one line per identifier. -/
theorem forall₂_itemOf {s : Store} {parsed : List (String × Int)} {ids : List String}
    {taken : List Product} {items : List OrderItem}
    (read : List.Forall₂ (fun id p => s.products.find? (·.id == id) = some p) ids taken)
    (built : List.Forall₂ (fun l i => OrderItem.Snapshots l.1 l.2 i)
      (taken.zip (ids.map (linesUnits parsed))) items) :
    List.Forall₂ (ItemOf s parsed) ids items := by
  induction read generalizing items with
  | nil => simpa using built
  | cons found _ ih =>
    obtain ⟨i, rest, snapshot, restBuilt, rfl⟩ := List.forall₂_cons_left_iff.1 built
    exact .cons ⟨_, found, snapshot⟩ (ih restBuilt)

/-- A placement of a list of lines that succeeds places one line per product, in the order the
products first appear, each a snapshot of its stored product holding the product's units. -/
theorem placeOrder_lines (c : Checkout) (shipping billing : Json) (lines : List Json) (s₀ : Store) :
    ⦃fun m => ⌜m.store = s₀⌝⦄ placeOrder c shipping billing (.arr lines)
    ⦃post⟨fun o _ => ⌜∃ parsed, List.Forall₂ LineReads lines parsed ∧
        List.Forall₂ (ItemOf s₀ parsed) (parsed.map (·.1)).eraseDups o.items⌝,
      fun _ _ => ⌜True⌝⟩⦄ := by
  have merging := mergeLines_arr lines
  have reading := reserveAll_reads
  have settling := settle_snapshots c shipping billing
  mvcgen [placeOrder, -mergeLines_spec, merging, reading, settling] invariants
  · post⟨fun _ m => ⌜m.store = s₀⌝, fun _ _ => ⌜True⌝⟩
  all_goals simp_all
  -- what is left: the merged lines name distinct products, and the order's lines are built from
  -- the products read for them
  · rename_i _ _ merged _ read _ _ _ _ _ _
    obtain ⟨-, parsed, -, rfl⟩ := read
    simpa [foldl_mergeInto, Function.comp_def] using nodup_eraseDups (parsed.map (·.1))
  · rename_i _ _ merged _ read _ _ _ _ _ taken _ o _ _ reads
    obtain ⟨-, parsed, lineReads, rfl⟩ := read
    intro built
    have read : List.Forall₂ (fun id p => s₀.products.find? (·.id == id) = some p)
        (parsed.map (·.1)).eraseDups taken := by
      simpa [foldl_mergeInto, List.forall₂_map_left_iff] using reads
    have madeOf : List.Forall₂ (fun l i => OrderItem.Snapshots l.1 l.2 i)
        (taken.zip ((parsed.map (·.1)).eraseDups.map (linesUnits parsed))) o.items := by
      simpa [foldl_mergeInto, Function.comp_def] using built
    exact ⟨parsed, lineReads, forall₂_itemOf read madeOf⟩

/-- Lines that are one per distinct product hold, of each product, the units asked for it. -/
theorem unitsOf_of_itemOf {s : Store} {parsed : List (String × Int)} {ids : List String}
    {items : List OrderItem} (distinct : ids.Nodup) (lines : List.Forall₂ (ItemOf s parsed) ids items)
    (id : String) : OrderItem.unitsOf items id = if id ∈ ids then linesUnits parsed id else 0 := by
  induction lines with
  | nil => rfl
  | @cons k i ks is item _ ih =>
    obtain ⟨p, found, snapshot⟩ := item
    obtain ⟨fresh, restDistinct⟩ := List.nodup_cons.1 distinct
    have restUnits := ih restDistinct
    simp only [OrderItem.unitsOf, List.map_cons, List.sum_cons] at restUnits ⊢
    rw [restUnits, snapshot.product, snapshot.quantity, id_of_find?_product found]
    by_cases same : k = id
    · subst same
      simp [fresh]
    · simp [same, Ne.symm same]

/-- A request in which some product's merged quantity exceeds its stock is refused while its lines
are checked, with the market as it was. -/
theorem placeOrder_refused_of_short (c : Checkout) (shipping billing : Json) (lines : List Json)
    {parsed : List (String × Int)} {id : String} {p : Product} (m₀ : Market)
    (reads : List.Forall₂ LineReads lines parsed) (named : id ∈ parsed.map (·.1))
    (found : m₀.store.products.find? (·.id == id) = some p) (short : p.stock < linesUnits parsed id) :
    ⦃fun m => ⌜m = m₀⌝⦄ placeOrder c shipping billing (.arr lines)
    ⦃post⟨fun _ _ => ⌜False⌝, fun _ m => ⌜m = m₀⌝⟩⦄ := by
  have merging := mergeLines_arr lines
  mvcgen [placeOrder, -mergeLines_spec, merging] invariants
  · post⟨fun step m => ⌜m = m₀ ∧ (id, linesUnits parsed id) ∈ step.fst.suffix⌝, fun _ m => ⌜m = m₀⌝⟩
  all_goals simp_all
  -- what is left: the lines are checked one after another, and the short product is among them
  · rename_i _ _ _ _ cur _ _ _ product _ _ _ _ _ _ _ _ current read stocked purchasable
    rcases current.2 with here | later
    · -- the short product's check refuses it
      subst here
      obtain rfl : product = p := Option.some.inj (read.2.1.symm.trans found)
      have inStock : product.ensureInStock (linesUnits parsed id) = .ok () := by
        rw [stocked.2, ← purchasable.2]
      simp [Product.ensureInStock, short] at inStock
    · exact later
  · rename_i _ merged _ _ read
    obtain ⟨-, parsed', reads', rfl⟩ := read
    obtain ⟨q, member⟩ := named
    rw [← LineReads.forall₂_unique reads reads', foldl_mergeInto]
    exact List.mem_map.2 ⟨id, List.mem_eraseDups.2 (List.mem_map.2 ⟨_, member, rfl⟩), rfl⟩

/-- Placing an order for a list of lines. When it succeeds, every line read as a product and a
quantity; the order has one line per product, in the order the products first appear, each a
snapshot of the stored product holding the sum of that product's quantities; no product is added
or removed, and each product's stock went down by that sum. When some product of the request is
asked for, over all its lines, in more units than it has in stock, the request is refused and the
market is as it was. -/
theorem placement_postcondition (c : Checkout) (shipping billing : Json) (lines : List Json)
    (m : Market) :
    (∀ o m', run (placeOrder c shipping billing (.arr lines)) m = (.ok o, m') →
      ∃ parsed, List.Forall₂ LineReads lines parsed ∧
        List.Forall₂ (ItemOf m.store parsed) (parsed.map (·.1)).eraseDups o.items ∧
        m'.store.productIds = m.store.productIds ∧
        ∀ id ∈ m.store.productIds, m'.store.stockOf id = m.store.stockOf id - linesUnits parsed id) ∧
    (∀ parsed id p, List.Forall₂ LineReads lines parsed → id ∈ parsed.map (·.1) →
      m.store.products.find? (·.id == id) = some p → p.stock < linesUnits parsed id →
      ∃ f, run (placeOrder c shipping billing (.arr lines)) m = (.error f, m)) := by
  constructor
  · intro o m' placed
    have both := run_of_triple (P := fun m' => m'.store = m.store) rfl
      (triple_and (placeOrder_spec c shipping billing (.arr lines) m.store)
        (placeOrder_lines c shipping billing lines m.store))
    rw [placed] at both
    obtain ⟨⟨moved, taken, stored⟩, parsed, reads, items⟩ := both
    -- the order holds of each product the units its lines ask for
    have units : ∀ id, OrderItem.unitsOf o.items id = linesUnits parsed id := by
      intro id
      rw [unitsOf_of_itemOf (nodup_eraseDups _) items id]
      split
      · rfl
      · next absent =>
        exact (linesUnits_of_not_mem fun listed => absent (List.mem_eraseDups.2 listed)).symm
    -- storing the order and using the coupon leave the products as the stock was taken
    have sameProducts : m'.store.products = moved.products := by
      simpa using congrArg Store.products stored.stored
    refine ⟨parsed, reads, items, ?_, fun id listed => ?_⟩
    · rw [Store.productIds, sameProducts]
      exact taken.ids_eq
    · have sameStock : m'.store.stockOf id = moved.stockOf id := by
        simp only [Store.stockOf, sameProducts]
      rw [sameStock, taken.stock_eq id listed, units]
      ring
  · intro parsed id p reads named found short
    have refused := run_of_triple (P := fun m' => m' = m) rfl
      (placeOrder_refused_of_short c shipping billing lines m reads named found short)
    rcases outcome : run (placeOrder c shipping billing (.arr lines)) m with ⟨_ | _, m'⟩ <;>
      simp only [outcome] at refused
    -- a placement that succeeded would contradict the refusal
    exact ⟨_, by rw [refused]⟩

/-- A desk lamp with five in stock. -/
def fiveLamps : Market where
  store := { products := [⟨"lamp", "Desk Lamp", 25.0, 5, 0, none, true, true⟩] }

/-- Two lines of three lamps each: either fits the stock of five, together they do not. -/
def twoLinesOfThree : List Json :=
  [.obj [("product_id", .str "lamp"), ("quantity", .int 3)],
    .obj [("product_id", .str "lamp"), ("quantity", .int 3)]]

theorem split_lines_refused :
    List.Forall₂ LineReads twoLinesOfThree [("lamp", 3), ("lamp", 3)] ∧
    fiveLamps.store.products.find? (·.id == "lamp") =
      some ⟨"lamp", "Desk Lamp", 25.0, 5, 0, none, true, true⟩ ∧
    (5 : Int) < linesUnits [("lamp", 3), ("lamp", 3)] "lamp" ∧
    ∃ f, run (placeOrder ⟨"c1", "{}", none, "CARD", none⟩ .null .null (.arr twoLinesOfThree))
      fiveLamps = (.error f, fiveLamps) := by
  have line : LineReads (.obj [("product_id", .str "lamp"), ("quantity", .int 3)]) ("lamp", 3) :=
    ⟨_, _, _, rfl, rfl, rfl, rfl, rfl⟩
  have reads : List.Forall₂ LineReads twoLinesOfThree [("lamp", 3), ("lamp", 3)] :=
    .cons line (.cons line .nil)
  exact ⟨reads, rfl, by decide,
    (placement_postcondition _ _ _ _ _).2 _ "lamp" _ reads (by decide) rfl (by decide)⟩

end Market

end Bazaar
