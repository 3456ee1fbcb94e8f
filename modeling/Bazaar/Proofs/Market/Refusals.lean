import Mathlib
import Bazaar.Proofs.Market.Payments

/-!
# Which failures refuse the caller

Only the access checks of fulfilment fail as forbidden. Each check passes exactly for the callers
it admits and leaves the market as it was; everything the operations do after their checks (the
order actions, giving stock back, the money conversions, the gateway and recording a session)
fails, when it fails, for some other reason. The seller list a check consults is the sellers
named on the order's lines.
-/

open Std.Do

set_option mvcgen.warning false

namespace Bazaar

instance : LawfulBEq ActorRole where
  eq_of_beq {a b} := by cases a <;> cases b <;> decide
  rfl {a} := by cases a <;> decide

namespace Fault

@[simp] theorem field_ne_forbidden (name msg refusal : String) :
    field name msg ≠ forbidden refusal :=
  nofun

@[simp] theorem missing_ne_forbidden (kind ident refusal : String) :
    missing kind ident ≠ forbidden refusal :=
  nofun

end Fault

/-! ## Who may act on an order -/

namespace Order

/-- Whether one of the order's lines is sold by a seller: the line names them, and they have an
identifier. -/
def SoldBy (o : Order) (seller : String) : Prop :=
  ∃ i ∈ o.items, i.sellerId = some seller ∧ seller ≠ ""

/-- Whether staff may manage an order: an admin any order, a seller an order with a line of
theirs. -/
def ManagedBy (o : Order) (actor : String) (role : ActorRole) : Prop :=
  role = .admin ∨ role = .seller ∧ o.SoldBy actor

theorem mem_insertSorted {s t : String} {l : List String} :
    t ∈ insertSorted s l ↔ t = s ∨ t ∈ l := by
  induction l with
  | nil => simp [insertSorted]
  | cons u rest ih =>
    unfold insertSorted
    by_cases same : s = u
    · subst same
      simp
    · by_cases below : s < u
      · simp [same, below]
      · simp [same, below, ih]
        tauto

/-- Gathering sellers line by line, each step keeping what it has and adding the line's seller,
gathers exactly the sellers of the lines. -/
theorem mem_foldl_iff {g : List String → OrderItem → List String} {t : String}
    (gathers : ∀ acc i, t ∈ g acc i ↔ t ∈ acc ∨ i.sellerId = some t ∧ t ≠ "")
    (items : List OrderItem) (acc : List String) :
    t ∈ items.foldl g acc ↔ t ∈ acc ∨ ∃ i ∈ items, i.sellerId = some t ∧ t ≠ "" := by
  induction items generalizing acc with
  | nil => simp
  | cons i rest ih =>
    rw [List.foldl_cons, ih, gathers]
    simp only [List.mem_cons, or_and_right, exists_or, exists_eq_left]
    tauto

/-- The sellers of an order are exactly the sellers of its lines. -/
theorem mem_sellers_iff {o : Order} {seller : String} : seller ∈ o.sellers ↔ o.SoldBy seller := by
  unfold sellers
  rw [mem_foldl_iff, SoldBy]
  · simp only [List.not_mem_nil, false_or]
  · -- one step: a line without a seller, or with an empty one, adds nobody
    intro acc i
    split
    · rename_i s named
      by_cases blank : s = ""
      · simp [named, blank]
      · simp only [named, String.isEmpty_iff, blank, if_false, mem_insertSorted,
          Option.some.injEq]
        constructor
        · rintro (rfl | old)
          · exact .inr ⟨rfl, blank⟩
          · exact .inl old
        · rintro (old | ⟨rfl, -⟩)
          · exact .inr old
          · exact .inl rfl
    · simp_all

end Order

namespace ActorRole

/-- Whether a role may set a status: an admin any status, anyone else processing or shipped. -/
def MaySet (role : ActorRole) (target : OrderStatus) : Prop :=
  role = .admin ∨ target = .processing ∨ target = .shipped

end ActorRole

/-! ## Order actions refuse no caller -/

/-- The postcondition of an operation that refuses nobody: it may answer anything, and when it
fails the fault is no refusal. -/
abbrev unrefused {σ α : Type} : PostCond α (.except Fault (.arg σ .pure)) :=
  post⟨fun _ _ => ⌜True⌝, fun e _ => ⌜∀ msg, e ≠ .forbidden msg⌝⟩

namespace OrderAction

variable {α : Type}

/-- An order action refuses nobody: from whatever order it starts, it fails, if at all, for some
reason other than a refusal. -/
def RefusesNone (act : OrderAction α) : Prop :=
  ∀ o₀ o f es, run act o₀ = (.error f, o, es) → ∀ msg, f ≠ .forbidden msg

/-- An action whose every failure is no refusal, by a triple, refuses nobody. -/
theorem refusesNone_of_triple {act : OrderAction α}
    (spec : ⦃fun _ => ⌜True⌝⦄ act ⦃unrefused⦄) :
    act.RefusesNone := by
  intro o₀ o f es ran
  have atStart := spec (o₀, []) trivial
  simp only [wp, run, Id.run] at atStart ran
  rcases outcome : StateT.run (ExceptT.run act) (o₀, []) with ⟨_ | b, o', es'⟩ <;>
    simp_all [PredTrans.pushExcept, PredTrans.pushArg, PredTrans.apply, ExceptT.run,
      StateT.run, pure, PredTrans.pure]

end OrderAction

namespace Order

theorem cancel_refusesNone (target : OrderStatus) : (cancel target).RefusesNone :=
  OrderAction.refusesNone_of_triple (by unfold cancel; mvcgen <;> simp)

theorem markStockRestored_refusesNone : markStockRestored.RefusesNone :=
  OrderAction.refusesNone_of_triple (by unfold markStockRestored; mvcgen; simp)

theorem updateStatus_refusesNone (target : OrderStatus) : (updateStatus target).RefusesNone :=
  OrderAction.refusesNone_of_triple (by unfold updateStatus cancel assertStep; mvcgen <;> simp)

theorem addTrackingNumber_refusesNone (trackingNumber : Json) :
    (addTrackingNumber trackingNumber).RefusesNone := by
  apply OrderAction.refusesNone_of_triple
  unfold addTrackingNumber
  -- the number's own checks fail under its field; they need not be evaluated
  generalize Field.text 0 (some 100) = readTracking
  generalize Text.trimBlank = trim
  mvcgen
  all_goals simp

theorem recordCheckoutSession_refusesNone (sessionId : Json) :
    (recordCheckoutSession sessionId).RefusesNone := by
  apply OrderAction.refusesNone_of_triple
  unfold recordCheckoutSession OrderAction.raiseChecked
  generalize Field.optional [("checkout_session_id", sessionId)] "checkout_session_id"
    (Field.text 0 (some 255)) = checked
  mvcgen <;> simp

end Order

/-- Writing a stock fails only on the value, under the stock field. -/
theorem Product.assign_stock_refusesNone {p : Product} {v : Json} {e : Fault}
    (failed : p.assign "stock" v = .error e) : ∀ msg, e ≠ .forbidden msg := by
  cases read : Field.integer (some 0) v <;>
    simp only [Product.assign, read, bind, Except.bind, pure, Except.pure, reduceCtorEq,
      Except.error.injEq] at failed
  subst failed
  simp [Fault.field]

namespace Money

/-! The money conversions fail only on the amount, never as a refusal. -/

@[simp] theorem quantizeHalfUp_ne_forbidden (d : Decimal) (exp : Int) (msg : String) :
    quantizeHalfUp d exp ≠ .error (.forbidden msg) := by
  unfold quantizeHalfUp
  split <;> simp

@[simp] theorem decimalToInt_ne_forbidden (d : Decimal) (msg : String) :
    decimalToInt d ≠ .error (.forbidden msg) := by
  unfold decimalToInt
  split <;> simp

@[simp] theorem arith_ne_forbidden (r : Option Decimal) (msg : String) :
    arith r ≠ .error (.forbidden msg) := by
  unfold arith
  split <;> simp

theorem decimalOfFloat_ne_forbidden (x : Float) (msg : String) :
    decimalOfFloat x ≠ .error (.forbidden msg) := by
  simp only [decimalOfFloat, Json.asDecimal]
  split <;> simp

theorem toMinorUnits_ne_forbidden (d : Decimal) (currency : String) (msg : String) :
    toMinorUnits d currency ≠ .error (.forbidden msg) := by
  intro refused
  simp only [toMinorUnits, bind, Except.bind] at refused
  -- each step's failure is passed on as it is, so the refusal would be a step's own
  repeat' split at refused
  all_goals simp_all

end Money

namespace Market

variable {α : Type}

/-- Running an order action that refuses nobody inside the market refuses nobody. -/
theorem onOrder_unrefused {act : OrderAction α} (quiet : act.RefusesNone) (o : Order) :
    ⦃fun _ => ⌜True⌝⦄ onOrder o act ⦃unrefused⦄ := by
  mvcgen [onOrder]
  rename_i f o' es ran _ _ _
  simp_all [quiet o o' f es ran]

theorem restore_go_unrefused (productId : String) (q : Quantity) (k : Nat) :
    ⦃fun _ => ⌜True⌝⦄ restore.go productId q k ⦃unrefused⦄ := by
  -- on the attempts left; each attempt fails only by its checks and the stock's own field
  induction k with
  | zero =>
    mvcgen [restore.go, conflict]
    simp_all
  | succ k ih =>
    unfold restore.go compareAndSwap getProduct
    mvcgen [ih]
    case vc5 =>
      -- the stock write fails only on the value written, which is no refusal
      exact fun _ assigned => Product.assign_stock_refusesNone assigned.symm
    -- the other failures are a missing product, a value that is no quantity, and a negative stock
    all_goals simp_all

theorem restoreStockFor_unrefused (o : Order) :
    ⦃fun _ => ⌜True⌝⦄ restoreStockFor o ⦃unrefused⦄ := by
  have marking := onOrder_unrefused Order.markStockRestored_refusesNone
  unfold restoreStockFor restore checkQuantity attemptsOf
  mvcgen [restore_go_unrefused, -onOrder_markStockRestored_spec, marking] invariants
  · unrefused
  all_goals simp_all [Cart.quantityTooSmall]

theorem unitOfWork_unrefused {act : MarketM α}
    (spec : ⦃fun _ => ⌜True⌝⦄ act ⦃unrefused⦄) : ⦃fun _ => ⌜True⌝⦄ unitOfWork act ⦃unrefused⦄ := by
  mvcgen [unitOfWork, spec]

theorem lift_unrefused {r : Except Fault α} (quiet : ∀ msg, r ≠ .error (.forbidden msg)) :
    ⦃fun _ => ⌜True⌝⦄ lift r ⦃unrefused⦄ := by
  mvcgen [lift, -lift_spec]
  all_goals simp_all

/-! The payment checks and the gateway fail for their own reasons. -/

theorem ensurePayable_unrefused (o : Order) :
    ⦃fun _ => ⌜True⌝⦄ ensurePayable o ⦃unrefused⦄ := by
  mvcgen [ensurePayable, -ensurePayable_spec]
  all_goals simp +contextual

theorem openSession_unrefused (call : GatewayCall) :
    ⦃fun _ => ⌜True⌝⦄ openSession call ⦃unrefused⦄ := by
  mvcgen [openSession, -openSession_spec]
  all_goals simp +contextual

/-! ## The access checks -/

/-- Finding the order under an identifier: the stored one, or else a failure that is no refusal,
when there is none. -/
theorem getOrder_found (orderId : String) (m₀ : Market) :
    ⦃fun m => ⌜m = m₀⌝⦄ getOrder orderId
    ⦃post⟨fun o m => ⌜m = m₀ ∧ m₀.store.orders.find? (·.id == orderId) = some o⌝,
      fun e m => ⌜m = m₀ ∧ m₀.store.orders.find? (·.id == orderId) = none ∧
        ∀ msg, e ≠ .forbidden msg⌝⟩⦄ := by
  mvcgen [getOrder, -getOrder_spec]
  all_goals simp_all

theorem recordSession_unrefused (orderId sessionId : String) :
    ⦃fun _ => ⌜True⌝⦄ recordSession orderId sessionId ⦃unrefused⦄ := by
  have recording := onOrder_unrefused (Order.recordCheckoutSession_refusesNone (.str sessionId))
  unfold recordSession
  apply unitOfWork_unrefused
  mvcgen [-getOrder_spec, getOrder_found, -onOrder_recordCheckoutSession_spec, recording]
  all_goals simp_all

/-- The owner check passes exactly for the order's customer, and refuses anyone else. -/
theorem ensureOwner_admits (o : Order) (requester : String) (m₀ : Market) :
    ⦃fun m => ⌜m = m₀⌝⦄ ensureOwner o requester
    ⦃post⟨fun _ m => ⌜m = m₀ ∧ o.customerId = requester⌝,
      fun e m => ⌜m = m₀ ∧ o.customerId ≠ requester ∧ ∃ msg, e = .forbidden msg⌝⟩⦄ := by
  mvcgen [ensureOwner, -ensureOwner_spec]
  all_goals simp_all [Order.isOwnedBy, Json.display]

/-- The staff check passes exactly for staff who manage the order, and refuses anyone else. -/
theorem ensureStaffCanManage_admits (o : Order) (actor : String) (role : ActorRole) (m₀ : Market) :
    ⦃fun m => ⌜m = m₀⌝⦄ ensureStaffCanManage o actor role
    ⦃post⟨fun _ m => ⌜m = m₀ ∧ o.ManagedBy actor role⌝,
      fun e m => ⌜m = m₀ ∧ ¬o.ManagedBy actor role ∧ ∃ msg, e = .forbidden msg⌝⟩⦄ := by
  mvcgen [ensureStaffCanManage, -ensureStaffCanManage_spec]
  all_goals simp_all [Order.ManagedBy, ← Order.mem_sellers_iff]

/-- The status check passes exactly for a status the role may set, and refuses any other. -/
theorem ensureStatusAllowed_admits (role : ActorRole) (target : OrderStatus) (m₀ : Market) :
    ⦃fun m => ⌜m = m₀⌝⦄ ensureStatusAllowed role target
    ⦃post⟨fun _ m => ⌜m = m₀ ∧ role.MaySet target⌝,
      fun e m => ⌜m = m₀ ∧ ¬role.MaySet target ∧ ∃ msg, e = .forbidden msg⌝⟩⦄ := by
  mvcgen [ensureStatusAllowed, -ensureStatusAllowed_spec]
  all_goals simp_all [ActorRole.MaySet, or_assoc]

end Market


end Bazaar
