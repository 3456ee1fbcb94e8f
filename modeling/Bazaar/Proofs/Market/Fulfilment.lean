import Mathlib
import Bazaar.Proofs.Market.Placement
import Bazaar.Proofs.Order.Actions

/-!
# What cancelling, moving and tracking orders do to the store

Each of these commands reads one stored order, runs an order action on it and writes the result
back under the same identifier; customers may then be told, which changes at most the inbox.
A cancellation also gives the order's stock back, once: `Order.givenBack o` is what giving back
the stock of `o` returns to each product, nothing once its stock mark is set, and nothing to a
product without an identifier, since lines naming no product are skipped.

The triples here say so command by command. As commands they run in a unit of work, so a command
that fails leaves the store as it found it.
-/

open Std.Do

set_option mvcgen.warning false

namespace Bazaar

namespace OrderItem

/-- The units of each product that giving back the stock of some lines returns: products
without an identifier are skipped. -/
def returnedUnits (items : List OrderItem) (id : String) : Int :=
  if id = "" then 0 else unitsOf items id

theorem returnedUnits_nil : returnedUnits [] = 0 := by
  funext id
  simp [returnedUnits, unitsOf]

theorem returnedUnits_append_of_named {items : List OrderItem} {item : OrderItem} {p : String}
    (named : item.productId = some p) (nonempty : p ≠ "") (id : String) :
    returnedUnits (items ++ [item]) id =
      returnedUnits items id + if id = p then item.quantity else 0 := by
  by_cases same : id = p
  · subst same
    simp [returnedUnits, unitsOf, named, nonempty]
  · simp [returnedUnits, unitsOf, named, same, Ne.symm same]

theorem returnedUnits_append_of_unnamed {items : List OrderItem} {item : OrderItem}
    (unnamed : ∀ p, item.productId = some p → p = "") :
    returnedUnits (items ++ [item]) = returnedUnits items := by
  funext id
  by_cases blank : id = ""
  · simp [returnedUnits, blank]
  · have notNamed : item.productId ≠ some id := fun named => blank (unnamed id named)
    simp [returnedUnits, unitsOf, notNamed]

end OrderItem

namespace Order

/-- The units of each product that giving back an order's stock returns: none once it was given
back. -/
def givenBack (o : Order) (id : String) : Int :=
  if o.stockRestored then 0 else OrderItem.returnedUnits o.items id

theorem restored_self {o : Order} (restored : o.stockRestored = true) :
    { o with stockRestored := true } = o := by
  cases o
  simp_all

end Order

namespace Store

/-- Putting back `q` units of a product moves its stock by `q`, whether or not it is stored. -/
theorem StockMove.of_restored {s s' : Store} {productId : String} {q : Int} {r : Option Product}
    (restored : (r = none ∧ s.products.find? (·.id == productId) = none ∧ s' = s) ∨
      ∃ p, r = some p ∧ s.products.find? (·.id == productId) = some p ∧ 0 ≤ p.stock + q ∧
        s' = s.putProduct { p with stock := p.stock + q, version := p.version + 1 }) :
    StockMove s s' fun id => if id = productId then q else 0 := by
  rcases restored with ⟨-, missing, unchanged⟩ | ⟨p, -, found, nonneg, written⟩
  · -- a product that is not stored: its identifier is none of the stored ones
    rw [unchanged]
    refine (StockMove.refl s).congr fun id stored => ?_
    have notThere : id ≠ productId := by
      rintro rfl
      obtain ⟨q, member, rfl⟩ := List.mem_map.mp stored
      exact List.find?_eq_none.mp missing q member (by simp)
    simp [notThere]
  · subst written
    exact (stockMove_write found nonneg).congr fun id _ => by simp

/-- An order written after a stock move and then told about leaves the store as the move and
the write left it, but for the inbox. -/
theorem StockMove.written_then_told {s₀ s₁ s₂ : Store} {δ : String → Int} {o : Order}
    (moved : StockMove s₀ s₁ δ)
    (told : { s₂ with inbox := (s₁.putOrder o).inbox } = s₁.putOrder o) :
    { s₂ with inbox := s₀.inbox } = s₁.putOrder o := by
  have sameInbox : (s₁.putOrder o).inbox = s₀.inbox := by
    rw [putOrder_eq, moved.frame]
  rw [← sameInbox]
  exact told

/-- What a staff status update of the stored order `old` does to the store: nothing when the
order already has the status; otherwise it gives back the stock the order holds and writes it
back cancelled with its stock mark set, or it moves the order one step. A customer may be told
in both cases. -/
inductive StatusUpdate (s s' : Store) (old : Order) (target : OrderStatus) : Prop
  | same (current : old.status = target) (unchanged : s' = s)
  | cancelled {moved : Store} (moving : old.status ≠ target) (cancelling : target.isCancelled = true)
      (cancellable : old.status.isCancellable = true) (given : StockMove s moved old.givenBack)
      (written : { s' with inbox := s.inbox } =
        moved.putOrder { old.cancelledInto target with stockRestored := true })
  | stepped (moving : old.status ≠ target) (notCancelling : target.isCancelled = false)
      (allowed : old.status.canStep target = true)
      (written : { s' with inbox := s.inbox } = s.putOrder (old.steppedTo target))

end Store

namespace Market

open Store

variable {α : Type}

/-! ## Order actions inside the market -/

/-- A triple of an order action from `o₀` gives one of running it on `o₀` inside the market,
which reads and writes nothing. -/
theorem onOrder_of_triple {act : OrderAction α} {o₀ : Order} {Q : α → Order → Prop}
    (spec : ⦃fun st => ⌜st.1 = o₀⌝⦄ act ⦃post⟨fun a st => ⌜Q a st.1⌝, fun _ _ => ⌜True⌝⟩⦄)
    (m₀ : Market) :
    ⦃fun m => ⌜m = m₀⌝⦄ onOrder o₀ act
    ⦃post⟨fun r m => ⌜m = m₀ ∧ Q r.1 r.2⌝, fun _ m => ⌜m = m₀⌝⟩⦄ := by
  mvcgen [onOrder]
  · rename_i a o es ran m same
    exact ⟨same, OrderAction.run_of_triple spec ran⟩
  all_goals simp_all

@[spec]
theorem onOrder_cancel_spec (target : OrderStatus) (o₀ : Order) (m₀ : Market) :
    ⦃fun m => ⌜m = m₀⌝⦄ onOrder o₀ (Order.cancel target)
    ⦃post⟨fun r m => ⌜m = m₀ ∧ target.isCancelled ∧ o₀.status.isCancellable ∧
        r.1 = !o₀.stockRestored ∧ r.2 = o₀.cancelledInto target⌝, fun _ m => ⌜m = m₀⌝⟩⦄ :=
  onOrder_of_triple (Q := fun giveBack o => target.isCancelled ∧ o₀.status.isCancellable ∧
    giveBack = !o₀.stockRestored ∧ o = o₀.cancelledInto target) (Order.cancel_spec target o₀) m₀

@[spec]
theorem onOrder_markStockRestored_spec (o₀ : Order) (m₀ : Market) :
    ⦃fun m => ⌜m = m₀⌝⦄ onOrder o₀ Order.markStockRestored
    ⦃post⟨fun r m => ⌜m = m₀ ∧ o₀.stockRestored = false ∧
        r.2 = { o₀ with stockRestored := true }⌝, fun _ m => ⌜m = m₀⌝⟩⦄ :=
  onOrder_of_triple
    (Q := fun _ o => o₀.stockRestored = false ∧ o = { o₀ with stockRestored := true })
    (Order.markStockRestored_spec o₀) m₀

@[spec]
theorem onOrder_updateStatus_spec (target : OrderStatus) (o₀ : Order) (m₀ : Market) :
    ⦃fun m => ⌜m = m₀⌝⦄ onOrder o₀ (Order.updateStatus target)
    ⦃post⟨fun r m => ⌜m = m₀ ∧ if o₀.status = target then r.1 = false ∧ r.2 = o₀
        else r.1 = true ∧
          if target.isCancelled then o₀.status.isCancellable ∧ r.2 = o₀.cancelledInto target
          else o₀.status.canStep target ∧ r.2 = o₀.steppedTo target⌝,
      fun _ m => ⌜m = m₀⌝⟩⦄ :=
  onOrder_of_triple (Q := fun changed o => if o₀.status = target then changed = false ∧ o = o₀
      else changed = true ∧
        if target.isCancelled then o₀.status.isCancellable ∧ o = o₀.cancelledInto target
        else o₀.status.canStep target ∧ o = o₀.steppedTo target)
    (Order.updateStatus_spec target o₀) m₀

@[spec]
theorem onOrder_addTrackingNumber_spec (trackingNumber : Json) (o₀ : Order) (m₀ : Market) :
    ⦃fun m => ⌜m = m₀⌝⦄ onOrder o₀ (Order.addTrackingNumber trackingNumber)
    ⦃post⟨fun r m => ⌜m = m₀ ∧ o₀.status.isTrackable ∧ r.1 = (o₀.status == .processing) ∧
        ∃ t, r.2 = { o₀ with
          trackingNumber := some t
          status := if o₀.status = .processing then .shipped else o₀.status }⌝,
      fun _ m => ⌜m = m₀⌝⟩⦄ :=
  onOrder_of_triple (Q := fun advanced o => o₀.status.isTrackable ∧
      advanced = (o₀.status == .processing) ∧
      ∃ t, o = { o₀ with
        trackingNumber := some t
        status := if o₀.status = .processing then .shipped else o₀.status })
    (Order.addTrackingNumber_spec trackingNumber o₀) m₀

/-! ## Checks and notices -/

@[spec]
theorem ensureOwner_spec (o : Order) (requester : String) (m₀ : Market) :
    ⦃fun m => ⌜m = m₀⌝⦄ ensureOwner o requester
    ⦃post⟨fun _ m => ⌜m = m₀⌝, fun _ m => ⌜m = m₀⌝⟩⦄ := by
  mvcgen [ensureOwner]
  all_goals simp_all

@[spec]
theorem ensureStaffCanManage_spec (o : Order) (actor : String) (role : ActorRole) (m₀ : Market) :
    ⦃fun m => ⌜m = m₀⌝⦄ ensureStaffCanManage o actor role
    ⦃post⟨fun _ m => ⌜m = m₀⌝, fun _ m => ⌜m = m₀⌝⟩⦄ := by
  mvcgen [ensureStaffCanManage]
  all_goals simp_all

@[spec]
theorem ensureStatusAllowed_spec (role : ActorRole) (target : OrderStatus) (m₀ : Market) :
    ⦃fun m => ⌜m = m₀⌝⦄ ensureStatusAllowed role target
    ⦃post⟨fun _ m => ⌜m = m₀⌝, fun _ m => ⌜m = m₀⌝⟩⦄ := by
  mvcgen [ensureStatusAllowed]
  all_goals simp_all

/-- Telling a user something changes at most the inbox and the notifier. -/
@[spec]
theorem notify_spec (userId message : String) (link : Option String) (m₀ : Market) :
    ⦃fun m => ⌜m = m₀⌝⦄ notify userId message link
    ⦃⇓ _ m => ⌜∃ inbox notifier, m = { m₀ with store := { m₀.store with inbox }, notifier }⌝⦄ := by
  mvcgen [notify]
  all_goals simp_all +zetaDelta
  -- what is left: the cases that keep the inbox, whichever notifier they leave
  all_goals first
    | exact ⟨_, rfl⟩
    | exact ⟨_, _, rfl⟩

theorem told_store {m₀ m : Market}
    (told : ∃ inbox notifier, m = { m₀ with store := { m₀.store with inbox }, notifier }) :
    { m.store with inbox := m₀.store.inbox } = m₀.store := by
  obtain ⟨inbox, notifier, rfl⟩ := told
  rfl

/-! ## Giving stock back -/

/-- Giving back an order's stock moves each product's stock up by the units the order still
holds of it, and sets the order's stock mark. -/
theorem restoreStockFor_spec (o : Order) (s₀ : Store) :
    ⦃fun m => ⌜m.store = s₀⌝⦄ restoreStockFor o
    ⦃post⟨fun o' m => ⌜o' = { o with stockRestored := true } ∧
        StockMove s₀ m.store (o.givenBack)⌝,
      fun _ _ => ⌜True⌝⟩⦄ := by
  -- the loop moves the stock of the lines seen so far, skipping those that name no product
  mvcgen [restoreStockFor] invariants
  · post⟨fun ⟨cursor, _⟩ m => ⌜StockMove s₀ m.store (OrderItem.returnedUnits cursor.prefix)⌝,
      fun _ _ => ⌜True⌝⟩
  case vc1 =>
    -- the stock was already given back: nothing to do
    rename_i restored m atStart
    refine ⟨(Order.restored_self restored).symm, ?_⟩
    rw [atStart]
    exact (StockMove.refl s₀).congr fun id _ => by simp [Order.givenBack, restored]
  case vc2 =>
    rename_i pref item rest split _ p named nonempty m₁ before r m₂ restored
    refine (before.trans (StockMove.of_restored restored.2)).congr fun id _ => ?_
    simp only [Pi.add_apply]
    rw [OrderItem.returnedUnits_append_of_named named (by simpa using nonempty)]
  case vc4 =>
    rename_i pref item rest split _ p named blank m before
    rw [OrderItem.returnedUnits_append_of_unnamed fun q named' => by simp_all]
    exact before
  case vc5 =>
    rename_i pref item rest split _ unnamed m before
    rw [OrderItem.returnedUnits_append_of_unnamed fun q named => by simp_all]
    exact before
  case vc6 =>
    rename_i m atStart
    rw [OrderItem.returnedUnits_nil, atStart]
    exact StockMove.refl s₀
  case vc7 =>
    rename_i notRestored m₁ _ _ m₂ moved r m₃ marked
    obtain ⟨same, -, stored⟩ := marked
    have outstanding : o.givenBack = OrderItem.returnedUnits o.items := by
      funext id
      simp [Order.givenBack, notRestored]
    refine ⟨stored, ?_⟩
    rw [same, outstanding]
    exact moved

/-! ## The commands -/

/-- A customer's cancellation of a stored, cancellable order writes it back cancelled with its
stock mark set, after giving back its stock. -/
theorem cancelOrder_spec (orderId requester : String) (s₀ : Store) :
    ⦃fun m => ⌜m.store = s₀⌝⦄ cancelOrder orderId requester
    ⦃post⟨fun st m => ⌜∃ old ∈ s₀.orders, old.id = orderId ∧ old.status.isCancellable ∧
        ∃ moved, StockMove s₀ moved old.givenBack ∧
          { m.store with inbox := s₀.inbox } =
            moved.putOrder { old.cancelledInto .cancelledByCustomer with stockRestored := true } ∧
          st = .cancelledByCustomer⌝,
      fun _ _ => ⌜True⌝⟩⦄ := by
  mvcgen [cancelOrder, restoreStockFor_spec]
  case vc1 =>
    rename_i m₀ atStart old m₁ found _ m₂ owned r _ giveBack m₃ cancelled o m₄ restored _ m₅ stored
      _ m₆ told
    replace told := told_store told
    obtain ⟨same₁, found, named⟩ := found
    obtain ⟨same₃, -, cancellable, -, intoCancelled⟩ := cancelled
    obtain ⟨restoredOrder, moved⟩ := restored
    subst m₁ m₂ m₃ m₅ o
    rw [atStart] at found moved
    rw [intoCancelled] at moved told ⊢
    exact ⟨old, List.mem_of_find?_eq_some found, named, cancellable, m₄.store,
      moved, StockMove.written_then_told moved told, rfl⟩
  case vc2 =>
    -- the stock was already given back: the order is written as the cancellation left it
    rename_i m₀ atStart old m₁ found _ m₂ owned r _ kept m₃ cancelled _ m₄ stored _ m₅ told
    replace told := told_store told
    obtain ⟨same₁, found, named⟩ := found
    obtain ⟨same₃, -, cancellable, giveBack, intoCancelled⟩ := cancelled
    have restoredBefore : old.stockRestored = true := by simpa [giveBack] using kept
    have stays : StockMove s₀ s₀ old.givenBack :=
      (StockMove.refl s₀).congr fun id _ => by simp [Order.givenBack, restoredBefore]
    subst m₁ m₂ m₃ m₄
    rw [atStart] at found told
    rw [intoCancelled] at told ⊢
    refine ⟨old, List.mem_of_find?_eq_some found, named, cancellable, s₀, stays, ?_, rfl⟩
    rw [Order.restored_self (o := old.cancelledInto .cancelledByCustomer) restoredBefore]
    exact StockMove.written_then_told stays told

/-- A status update that changed the order moved it off its status, by a cancellation or a
step. -/
theorem updated_of_changed {o₀ o : Order} {changed : Bool} {target : OrderStatus}
    (updated : if o₀.status = target then changed = false ∧ o = o₀
      else changed = true ∧
        if target.isCancelled then o₀.status.isCancellable ∧ o = o₀.cancelledInto target
        else o₀.status.canStep target ∧ o = o₀.steppedTo target)
    (wasChanged : ¬(!changed) = true) :
    o₀.status ≠ target ∧
      if target.isCancelled then o₀.status.isCancellable ∧ o = o₀.cancelledInto target
      else o₀.status.canStep target ∧ o = o₀.steppedTo target := by
  split at updated
  · simp_all
  · exact ⟨‹_›, updated.2⟩

/-- A staff status update of a stored order does to the store what `StatusUpdate` allows. -/
theorem updateOrderStatus_spec (orderId : String) (target : OrderStatus) (actor : String)
    (role : ActorRole) (s₀ : Store) :
    ⦃fun m => ⌜m.store = s₀⌝⦄ updateOrderStatus orderId target actor role
    ⦃post⟨fun _ m => ⌜∃ old ∈ s₀.orders, old.id = orderId ∧ StatusUpdate s₀ m.store old target⌝,
      fun _ _ => ⌜True⌝⟩⦄ := by
  mvcgen [updateOrderStatus, restoreStockFor_spec]
  case vc1 =>
    -- nothing changed: the update read the order and wrote nothing
    rename_i m₀ atStart old m₁ found _ m₂ managed _ m₃ allowed r unchanged m₄ updated
    obtain ⟨same₁, found, named⟩ := found
    subst atStart
    refine ⟨old, List.mem_of_find?_eq_some found, named, ?_⟩
    split at updated
    · exact .same ‹_› (by simp_all)
    · simp_all
  case vc2 =>
    rename_i m₀ atStart old m₁ found _ m₂ managed _ m₃ allowed r changed _ cancelling m₄ updated
      o m₅ restored _ _ _ _ m₆ stored _ m₇ told
    replace told := told_store told
    obtain ⟨same₁, found, named⟩ := found
    obtain ⟨same₄, updated⟩ := updated
    obtain ⟨moving, updated⟩ := updated_of_changed updated changed
    rw [if_pos cancelling] at updated
    obtain ⟨cancellable, intoCancelled⟩ := updated
    obtain ⟨restoredOrder, moved⟩ := restored
    subst m₁ m₂ m₃ m₄ m₆ o
    rw [atStart] at found moved
    rw [intoCancelled] at moved told
    exact ⟨old, List.mem_of_find?_eq_some found, named,
      .cancelled moving cancelling cancellable moved (StockMove.written_then_told moved told)⟩
  case vc3 =>
    rename_i m₀ atStart old m₁ found _ m₂ managed _ m₃ allowed r changed _ cancelling m₄ updated
      o m₅ restored _ _ _ _ _ m₆ stored
    obtain ⟨same₁, found, named⟩ := found
    obtain ⟨same₄, updated⟩ := updated
    obtain ⟨moving, updated⟩ := updated_of_changed updated changed
    rw [if_pos cancelling] at updated
    obtain ⟨cancellable, intoCancelled⟩ := updated
    obtain ⟨restoredOrder, moved⟩ := restored
    subst m₁ m₂ m₃ m₄ m₆ o
    rw [atStart] at found moved
    rw [intoCancelled] at moved ⊢
    exact ⟨old, List.mem_of_find?_eq_some found, named,
      .cancelled moving cancelling cancellable moved (StockMove.written_then_told moved rfl)⟩
  case vc4 =>
    rename_i m₀ atStart old m₁ found _ m₂ managed _ m₃ allowed r changed _ stepping m₄ updated
      _ _ _ _ m₅ stored _ m₆ told
    replace told := told_store told
    obtain ⟨same₁, found, named⟩ := found
    obtain ⟨same₄, updated⟩ := updated
    obtain ⟨moving, updated⟩ := updated_of_changed updated changed
    rw [if_neg stepping] at updated
    obtain ⟨steps, intoStepped⟩ := updated
    subst m₁ m₂ m₃ m₄ m₅
    rw [atStart] at found told
    rw [intoStepped] at told
    exact ⟨old, List.mem_of_find?_eq_some found, named, .stepped moving (by simpa using stepping)
      steps (StockMove.written_then_told (StockMove.refl s₀) told)⟩
  case vc5 =>
    rename_i m₀ atStart old m₁ found _ m₂ managed _ m₃ allowed r changed _ stepping m₄ updated
      _ _ _ _ _ m₅ stored
    obtain ⟨same₁, found, named⟩ := found
    obtain ⟨same₄, updated⟩ := updated
    obtain ⟨moving, updated⟩ := updated_of_changed updated changed
    rw [if_neg stepping] at updated
    obtain ⟨steps, intoStepped⟩ := updated
    subst m₁ m₂ m₃ m₄ m₅ atStart
    rw [intoStepped]
    exact ⟨old, List.mem_of_find?_eq_some found, named, .stepped moving (by simpa using stepping)
      steps (StockMove.written_then_told (StockMove.refl _) rfl)⟩

/-- A tracking number for a stored, trackable order is written onto it, shipping a processing
order. -/
theorem addTracking_spec (orderId trackingNumber actor : String) (role : ActorRole) (s₀ : Store) :
    ⦃fun m => ⌜m.store = s₀⌝⦄ addTracking orderId trackingNumber actor role
    ⦃post⟨fun _ m => ⌜∃ old ∈ s₀.orders, old.id = orderId ∧ old.status.isTrackable ∧
        ∃ t, { m.store with inbox := s₀.inbox } = s₀.putOrder { old with
          trackingNumber := some t
          status := if old.status = .processing then .shipped else old.status }⌝,
      fun _ _ => ⌜True⌝⟩⦄ := by
  mvcgen [addTracking]
  case vc1 =>
    rename_i m₀ atStart old m₁ found _ m₂ managed r m₃ tracked _ _ advanced m₄ stored _ m₅ told
    replace told := told_store told
    obtain ⟨same₁, found, named⟩ := found
    obtain ⟨same₃, trackable, -, t, written⟩ := tracked
    subst m₁ m₂ m₃ m₄ atStart
    rw [written] at told
    exact ⟨old, List.mem_of_find?_eq_some found, named, trackable, t,
      StockMove.written_then_told (StockMove.refl _) told⟩
  case vc2 =>
    rename_i m₀ atStart old m₁ found _ m₂ managed r m₃ tracked _ _ kept m₄ stored
    obtain ⟨same₁, found, named⟩ := found
    obtain ⟨same₃, trackable, -, t, written⟩ := tracked
    subst m₁ m₂ m₃ m₄ atStart
    rw [written]
    exact ⟨old, List.mem_of_find?_eq_some found, named, trackable, t,
      StockMove.written_then_told (StockMove.refl _) rfl⟩

namespace Command

/-- A customer's cancellation from its fields: the cancellation of `cancelOrder_spec`, or a
failure that leaves the store as it was. -/
theorem cancelOrder_spec (given : Field.Given) (s₀ : Store) :
    ⦃fun m => ⌜m.store = s₀⌝⦄ Command.cancelOrder given
    ⦃post⟨fun st m => ⌜∃ old ∈ s₀.orders, old.status.isCancellable ∧
        ∃ moved, StockMove s₀ moved old.givenBack ∧
          { m.store with inbox := s₀.inbox } =
            moved.putOrder { old.cancelledInto .cancelledByCustomer with stockRestored := true } ∧
          st = .cancelledByCustomer⌝,
      fun _ m => ⌜m.store = s₀⌝⟩⦄ := by
  mvcgen [Command.cancelOrder, Command.checked, unitOfWork_spec, Market.cancelOrder_spec]
  case vc2 =>
    -- the order's identifier is the checked field's; only the order itself is kept
    rename_i atHandler st m
    subst atHandler
    rintro ⟨old, member, -, cancelled⟩
    exact ⟨old, member, cancelled⟩
  all_goals simp_all

/-- A staff status update from its fields: the update of `updateOrderStatus_spec` to some
status, or a failure that leaves the store as it was. -/
theorem updateOrderStatus_spec (given : Field.Given) (s₀ : Store) :
    ⦃fun m => ⌜m.store = s₀⌝⦄ Command.updateOrderStatus given
    ⦃post⟨fun _ m => ⌜∃ old ∈ s₀.orders, ∃ target, StatusUpdate s₀ m.store old target⌝,
      fun _ m => ⌜m.store = s₀⌝⟩⦄ := by
  mvcgen [Command.updateOrderStatus, Command.checked, Command.statusNamed, Command.roleNamed,
    unitOfWork_spec, Market.updateOrderStatus_spec]
  case vc1 =>
    rename_i target _ _ _ _ atHandler st m
    subst atHandler
    rintro ⟨old, member, -, updated⟩
    exact ⟨old, member, target, updated⟩
  all_goals simp_all

/-- A tracking number from the command's fields: the write of `addTracking_spec`, or a failure
that leaves the store as it was. -/
theorem addTrackingNumber_spec (given : Field.Given) (s₀ : Store) :
    ⦃fun m => ⌜m.store = s₀⌝⦄ Command.addTrackingNumber given
    ⦃post⟨fun _ m => ⌜∃ old ∈ s₀.orders, old.status.isTrackable ∧
        ∃ t, { m.store with inbox := s₀.inbox } = s₀.putOrder { old with
          trackingNumber := some t
          status := if old.status = .processing then .shipped else old.status }⌝,
      fun _ m => ⌜m.store = s₀⌝⟩⦄ := by
  mvcgen [Command.addTrackingNumber, Command.checked, Command.roleNamed, unitOfWork_spec,
    Market.addTracking_spec]
  case vc1 =>
    rename_i atHandler st m
    subst atHandler
    rintro ⟨old, member, -, tracked⟩
    exact ⟨old, member, tracked⟩
  all_goals simp_all

end Command

end Market

end Bazaar
