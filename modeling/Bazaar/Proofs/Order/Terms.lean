import Mathlib
import Bazaar.Proofs.Market.Steps

/-!
# The terms an order is placed on

Placing an order fixes its terms: the customer, the lines, the two addresses, the four amounts and
the currency, the coupon and the sellers (`Order.Terms`). The actions that move an order along its
state machines write its statuses, its tracking number, its checkout session and its stock mark,
and never its terms, whether they succeed or fail (`Order.KeepsTerms`). The rules an order is
checked against when it is placed read only its amounts, so an order that passed them keeps
passing them as long as its terms stay.
-/

open Std.Do

set_option mvcgen.warning false

namespace Bazaar

namespace Messages

theorem add_ne_nil (ms : Messages) (field msg : String) : ms.add field msg ≠ [] := by
  unfold add
  split
  · intro empty
    simp_all
  · simp

theorem foldl_add_ne_nil (field : String) (msgs : List String) {ms : Messages} (kept : ms ≠ []) :
    msgs.foldl (fun acc m => acc.add field m) ms ≠ [] := by
  induction msgs generalizing ms with
  | nil => exact kept
  | cons msg msgs ih => exact ih (add_ne_nil ms field msg)

/-- Merging never loses a field that already has messages, so a merge into messages is never
empty. -/
theorem merge_ne_nil (more : Messages) {ms : Messages} (kept : ms ≠ []) : ms.merge more ≠ [] := by
  induction more generalizing ms with
  | nil => exact kept
  | cons kv more ih => exact ih (foldl_add_ne_nil kv.1 kv.2 kept)

end Messages

namespace Order

/-- What an order fixes when it is placed: its customer, its lines, its addresses, its amounts and
currency, its coupon and its sellers. -/
structure Terms where
  customerId : String
  items : List OrderItem
  shipping : Address
  billing : Address
  total : Float
  discount : Float
  shippingFee : Float
  final : Float
  currency : String
  couponId : Option String
  couponCode : Option String
  sellerRefs : String

/-- The terms of an order. -/
def terms (o : Order) : Terms :=
  ⟨o.customerId, o.items, o.shipping, o.billing, o.total, o.discount, o.shippingFee, o.final,
    o.currency, o.couponId, o.couponCode, o.sellerRefs⟩

/-- The rules of an order read only its amounts, so orders on the same terms pass the same
rules. -/
theorem rules_eq_of_terms {o o' : Order} (same : o'.terms = o.terms) : o'.rules = o.rules := by
  have total : o'.total = o.total := congrArg Terms.total same
  have discount : o'.discount = o.discount := congrArg Terms.discount same
  have fee : o'.shippingFee = o.shippingFee := congrArg Terms.shippingFee same
  have final : o'.final = o.final := congrArg Terms.final same
  simp only [rules, total, discount, fee, final]

/-- An order that passes its rules has a discount no larger than its total. -/
theorem discount_le_total_of_rules {o : Order} (ruled : o.rules = .ok []) :
    ¬ o.total < o.discount := by
  intro above
  unfold rules at ruled
  simp only [GT.gt, above, if_true] at ruled
  -- whatever the final amount's rule adds, the discount's message stays
  iterate 7 obtain ⟨_, -, ruled⟩ := Except.bind_ok ruled
  have merged := Except.ok.inj ruled
  exact Messages.merge_ne_nil _ (by simp [Messages.single]) merged

/-- A placed order passes the rules it was checked against. -/
theorem rules_of_place {id : String} {p : Placement} {o : Order} {ev : OrderEvent}
    (placed : place id p = .ok (o, ev)) : o.rules = .ok [] := by
  unfold place at placed
  obtain ⟨items, -, placed⟩ := Except.bind_ok placed
  iterate 9 obtain ⟨_, -, placed⟩ := Except.bind_ok placed
  simp only at placed
  split at placed <;>
  · iterate 3 obtain ⟨_, -, placed⟩ := Except.bind_ok placed
    obtain ⟨order, -, placed⟩ := Except.bind_ok placed
    obtain ⟨messages, ruled, placed⟩ := Except.bind_ok placed
    split at placed
    · obtain ⟨_, -, placed⟩ := Except.bind_ok placed
      cases placed
      exact ruled
    · obtain ⟨_, refused, -⟩ := Except.bind_ok placed
      cases refused

/-- What placing guarantees of the order it builds: it passes its rules, and its seller text is
the one built from its lines. -/
structure AsPlaced (o : Order) : Prop where
  ruled : o.rules = .ok []
  sellersBuilt : o.sellerRefs = sellerRefsOf o.items

theorem asPlaced_of_place {id : String} {p : Placement} {o : Order} {ev : OrderEvent}
    (placed : place id p = .ok (o, ev)) : o.AsPlaced :=
  ⟨rules_of_place placed, (placed_of_place placed).2.2.2.2.2.2⟩

theorem items_eq_of_terms {o o' : Order} (same : o'.terms = o.terms) : o'.items = o.items :=
  congrArg Terms.items same

theorem sellerRefs_eq_of_terms {o o' : Order} (same : o'.terms = o.terms) :
    o'.sellerRefs = o.sellerRefs :=
  congrArg Terms.sellerRefs same

/-! ## Actions keep the terms

The registered triples of the order actions say nothing about a failure, so `KeepsTerms` is a frame
of its own that holds whatever the outcome. Reading the order, raising events and the checks leave
the order as it is, and each update an action makes writes a field outside the terms (its status,
its payment status, its session, its tracking number or its stock flag); every action is built from
these steps. -/

end Order

namespace OrderAction

variable {α : Type}

/-- Running an action that keeps a property of the order in every outcome keeps it, whatever the
outcome. -/
theorem holds_of_triple {act : OrderAction α} {P : Order → Prop}
    (keeps : ⦃fun st => ⌜P st.1⌝⦄ act ⦃post⟨fun _ st => ⌜P st.1⌝, fun _ st => ⌜P st.1⌝⟩⦄)
    {o o' : Order} {r : Except Fault α} {es : List OrderEvent} (ran : run act o = (r, o', es))
    (holds : P o) : P o' := by
  have atStart := keeps (o, []) holds
  simp only [wp, run, Id.run] at atStart ran
  rcases outcome : StateT.run (ExceptT.run act) (o, []) with ⟨_ | b, o'', es'⟩ <;>
    simp only [outcome, Prod.mk.injEq] at ran <;> obtain ⟨-, rfl, -⟩ := ran <;>
    simp_all [PredTrans.pushExcept, PredTrans.pushArg, PredTrans.apply, ExceptT.run,
      StateT.run, pure, PredTrans.pure]

end OrderAction

namespace Order

open OrderAction

/-- An action keeps the terms of the order it runs on, whether it succeeds or fails. -/
def KeepsTerms {α : Type} (act : OrderAction α) : Prop :=
  ∀ t : Terms, ⦃fun st => ⌜st.1.terms = t⌝⦄ act
    ⦃post⟨fun _ st => ⌜st.1.terms = t⌝, fun _ st => ⌜st.1.terms = t⌝⟩⦄

/-- Running an action that keeps the terms leaves an order on its terms, whatever the outcome. -/
theorem KeepsTerms.run {α : Type} {act : OrderAction α} (keeps : KeepsTerms act) {o o' : Order}
    {r : Except Fault α} {es : List OrderEvent} (ran : OrderAction.run act o = (r, o', es)) :
    o'.terms = o.terms :=
  holds_of_triple (P := (·.terms = o.terms)) (keeps o.terms) ran rfl

/-- Reading the order leaves it as it is. -/
theorem order_keepsTerms : KeepsTerms order := by
  intro t
  mvcgen [order]
  rename_i _ atStart _ _
  rintro rfl -
  exact atStart

/-- Raising an event leaves the order as it is. -/
theorem raise_keepsTerms (e : OrderEvent) : KeepsTerms (raise e) := by
  intro t
  mvcgen [raise]
  rename_i _ atStart _ _
  intro same
  rw [same]
  exact atStart

/-- An update that writes no field of the terms keeps them. -/
theorem update_keepsTerms {f : Order → Order} (untouched : ∀ o, (f o).terms = o.terms) :
    KeepsTerms (update f) := by
  intro t
  mvcgen [update]
  rename_i _ atStart _ _
  intro written
  rw [written, untouched]
  exact atStart

theorem raiseChecked_keepsTerms (v : Validation OrderEvent) : KeepsTerms (raiseChecked v) := by
  intro t
  have raising e := raise_keepsTerms e t
  cases v <;> mvcgen [raiseChecked, -raiseChecked_spec, -raise_spec, raising]

theorem assertStep_keepsTerms (target : OrderStatus) : KeepsTerms (assertStep target) := by
  intro t
  have reading := order_keepsTerms t
  mvcgen [assertStep, -assertStep_spec, -order_spec, reading]

theorem assertPaymentStep_keepsTerms (target : PaymentStatus) :
    KeepsTerms (assertPaymentStep target) := by
  intro t
  have reading := order_keepsTerms t
  mvcgen [assertPaymentStep, -assertPaymentStep_spec, -order_spec, reading]

/-- The status is no term. -/
theorem changeStatus_keepsTerms (target : OrderStatus) : KeepsTerms (changeStatus target) := by
  intro t
  have reading := order_keepsTerms t
  have writing := update_keepsTerms (f := fun o => { o with status := target }) (fun _ => rfl) t
  have raising e := raise_keepsTerms e t
  mvcgen [changeStatus, -changeStatus_spec, -order_spec, reading, -update_spec, writing,
    -raise_spec, raising]

theorem confirmPayment_keepsTerms (amount transactionId : Json) :
    KeepsTerms (confirmPayment amount transactionId) := by
  intro t
  have stepping := assertStep_keepsTerms .processing t
  have paymentStepping := assertPaymentStep_keepsTerms .completed t
  have paying := update_keepsTerms (f := fun o => { o with paymentStatus := .completed })
    (fun _ => rfl) t
  have moving := changeStatus_keepsTerms .processing t
  have reading := order_keepsTerms t
  have raising v := raiseChecked_keepsTerms v t
  mvcgen [confirmPayment, -confirmPayment_spec, -assertStep_spec, stepping,
    -assertPaymentStep_spec, paymentStepping, -update_spec, paying, -changeStatus_spec, moving,
    -order_spec, reading, -raiseChecked_spec, raising]

theorem recordCheckoutSession_keepsTerms (sessionId : Json) :
    KeepsTerms (recordCheckoutSession sessionId) := by
  intro t
  unfold recordCheckoutSession
  generalize Field.optional [("checkout_session_id", sessionId)] "checkout_session_id"
    (Field.text 0 (some 255)) = checked
  have reading := order_keepsTerms t
  have recording s := update_keepsTerms (f := fun o => { o with checkoutSessionId := s })
    (fun _ => rfl) t
  have raising v := raiseChecked_keepsTerms v t
  mvcgen [-order_spec, reading, -update_spec, recording, -raiseChecked_spec, raising]

theorem recordLatePayment_keepsTerms (amount transactionId : Json) :
    KeepsTerms (recordLatePayment amount transactionId) := by
  intro t
  have paymentStepping := assertPaymentStep_keepsTerms .completed t
  have paying := update_keepsTerms (f := fun o => { o with paymentStatus := .completed })
    (fun _ => rfl) t
  have reading := order_keepsTerms t
  have raising v := raiseChecked_keepsTerms v t
  mvcgen [recordLatePayment, -recordLatePayment_spec, -assertPaymentStep_spec, paymentStepping,
    -update_spec, paying, -order_spec, reading, -raiseChecked_spec, raising]

theorem recordPaymentFailure_keepsTerms (reason : Json) :
    KeepsTerms (recordPaymentFailure reason) := by
  intro t
  have reading := order_keepsTerms t
  have paymentStepping := assertPaymentStep_keepsTerms .failed t
  have failing := update_keepsTerms (f := fun o => { o with paymentStatus := .failed })
    (fun _ => rfl) t
  have raising v := raiseChecked_keepsTerms v t
  mvcgen [recordPaymentFailure, -recordPaymentFailure_spec, -order_spec, reading,
    -assertPaymentStep_spec, paymentStepping, -update_spec, failing, -raiseChecked_spec, raising]

theorem cancel_keepsTerms (target : OrderStatus) : KeepsTerms (cancel target) := by
  intro t
  have reading := order_keepsTerms t
  have refunding := update_keepsTerms (f := fun o => { o with paymentStatus := .refunded })
    (fun _ => rfl) t
  have moving := changeStatus_keepsTerms target t
  have raising e := raise_keepsTerms e t
  mvcgen [cancel, -cancel_spec, -order_spec, reading, -update_spec, refunding,
    -changeStatus_spec, moving, -raise_spec, raising]

theorem markStockRestored_keepsTerms : KeepsTerms markStockRestored := by
  intro t
  have reading := order_keepsTerms t
  have marking := update_keepsTerms (f := fun o => { o with stockRestored := true })
    (fun _ => rfl) t
  have raising e := raise_keepsTerms e t
  mvcgen [markStockRestored, -markStockRestored_spec, -order_spec, reading, -update_spec, marking,
    -raise_spec, raising]

theorem updateStatus_keepsTerms (target : OrderStatus) : KeepsTerms (updateStatus target) := by
  intro t
  have reading := order_keepsTerms t
  have cancelling := cancel_keepsTerms target t
  have stepping := assertStep_keepsTerms target t
  have delivering := update_keepsTerms (f := fun o => { o with paymentStatus := .completed })
    (fun _ => rfl) t
  have moving := changeStatus_keepsTerms target t
  mvcgen [updateStatus, -updateStatus_spec, -order_spec, reading, -cancel_spec, cancelling,
    -assertStep_spec, stepping, -update_spec, delivering, -changeStatus_spec, moving]

theorem addTrackingNumber_keepsTerms (trackingNumber : Json) :
    KeepsTerms (addTrackingNumber trackingNumber) := by
  intro t
  unfold addTrackingNumber
  generalize Field.text 0 (some 100) = readTracking
  generalize Text.trimBlank = trim
  have reading := order_keepsTerms t
  have tracking n := update_keepsTerms (f := fun o => { o with trackingNumber := some n })
    (fun _ => rfl) t
  have shipping := changeStatus_keepsTerms .shipped t
  have raising e := raise_keepsTerms e t
  mvcgen [-order_spec, reading, -update_spec, tracking, -changeStatus_spec, shipping,
    -raise_spec, raising]

/-! ## Stored changes keep the terms -/

theorem Change.terms_eq {old o : Order} (changed : old.Change o) : o.terms = old.terms := by
  cases changed <;> rfl

@[simp] theorem paid_terms (o : Order) : o.paid.terms = o.terms := by
  unfold paid; split <;> rfl

end Order

end Bazaar
