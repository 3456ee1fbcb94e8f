import Mathlib
import Bazaar.Webhook.Event

/-!
# The grammar of webhook events

A webhook body is read as JSON and then as an event envelope. `Webhook.Decodes v e` states, field
by field, when the envelope `v` is the event `e`: it is an object with a text `id` and `type` and
an object under `data.object`; the object's `metadata` is absent, `null` or an object, and so is
the metadata of its expanded payment intent whenever the object's own metadata names no order; the
three handled types need a true `id` in the object, a failed payment's `last_payment_error` is
absent, `null` or an object, and each type's amount is absent, `null` or an integer in minor
units, converted in the object's currency.

Main statement: `Webhook.decode_accepts_grammar`. A body decodes to an event exactly when it reads
as JSON whose envelope `Decodes` to that event. Any other body is refused as a payload, except a
body nested too deeply to read and an amount that cannot be converted, which fail as such.

The intent's metadata is looked at only when the order is not already named by the object's own
metadata, so a malformed intent metadata beside a top-level order id is accepted.
-/

open Std.Do

set_option mvcgen.warning false

namespace Bazaar

namespace Webhook

/-! ## The grammar -/

/-- A nested value that is absent or `null`, read as no fields, or an object. -/
def NestedObject (v : Json) (fields : List (String × Json)) : Prop :=
  v = .null ∧ fields = [] ∨ v = .obj fields

/-- The order named by some metadata: the text of a true `order_id`. -/
def namedIn (metadata : List (String × Json)) : Option String :=
  if (get metadata "order_id").truthy then some (get metadata "order_id").display else none

/-- The order an event's object names: by its own metadata, else by the metadata of its expanded
payment intent, which is read only then. -/
def OrderNamed (obj : List (String × Json)) (orderId : Option String) : Prop :=
  ∃ metadata, NestedObject (get obj "metadata") metadata ∧
    match namedIn metadata with
    | some named => orderId = some named
    | none =>
      match get obj "payment_intent" with
      | .obj intent => ∃ intentMetadata, NestedObject (get intent "metadata") intentMetadata ∧
          orderId = namedIn intentMetadata
      | _ => orderId = none

/-- The currency of an event's object: the text of a true `currency`, else `usd`, in lower case. -/
def currencyOf (obj : List (String × Json)) : String :=
  Text.toLower (if (get obj "currency").truthy then (get obj "currency").display else "usd")

/-- A minor-unit amount in major units of a currency: as a double for a currency without a
fractional unit, else in hundredths. -/
def majorUnits (currency : String) (n : Int) : Except Fault Float :=
  if Money.isZeroDecimal currency then Json.floatOfInt n else Money.fromMinorUnits n

/-- The amount under `key`: zero when absent or `null`, else an integer in minor units. -/
def AmountRead (obj : List (String × Json)) (key currency : String) (amount : Float) : Prop :=
  get obj key = .null ∧ amount = 0.0 ∨ ∃ n, get obj key = .int n ∧ majorUnits currency n = .ok amount

/-- Why a payment failed: the true `message` of its error, else a stock text. -/
def reasonOf (error : List (String × Json)) : Json :=
  if (get error "message").truthy then get error "message" else .str "Payment failed"

/-- The object of an event of type `eventType`, naming `orderId`, is the event `e`: the three
handled types need a true `id` and read their amount, a failed payment also its error; any other
type is unhandled. -/
def ObjectEvent (eventId eventType : String) (obj : List (String × Json)) (orderId : Option String)
    (e : Event) : Prop :=
  if eventType = checkoutCompletedType then
    (get obj "id").truthy ∧ ∃ amount, AmountRead obj "amount_total" (currencyOf obj) amount ∧
      e = .checkoutCompleted ⟨eventId, orderId, get obj "id", intentId (get obj "payment_intent"),
        amount, currencyOf obj, obj⟩
  else if eventType = paymentFailedType then
    (get obj "id").truthy ∧ ∃ error amount, NestedObject (get obj "last_payment_error") error ∧
      AmountRead obj "amount" (currencyOf obj) amount ∧
      e = .paymentFailed ⟨eventId, orderId, get obj "id", reasonOf error, amount,
        currencyOf obj, obj⟩
  else if eventType = chargeRefundedType then
    (get obj "id").truthy ∧ ∃ amount, AmountRead obj "amount_refunded" (currencyOf obj) amount ∧
      e = .chargeRefunded ⟨eventId, orderId, get obj "id", intentId (get obj "payment_intent"),
        amount, currencyOf obj, obj⟩
  else e = .unhandled eventId eventType orderId

/-- The envelope `v` decodes to the event `e`. -/
def Decodes (v : Json) (e : Event) : Prop :=
  ∃ env eventId eventType data obj orderId, v = .obj env ∧
    get env "id" = .str eventId ∧ get env "type" = .str eventType ∧
    get env "data" = .obj data ∧ get data "object" = .obj obj ∧ OrderNamed obj orderId ∧
    ObjectEvent eventId eventType obj orderId e

/-- A refusal of a webhook's payload. -/
def PayloadRefusal (f : Fault) : Prop :=
  ∃ msg, f = payloadError msg

/-! ## Nested objects and the order -/

theorem nestedObject_eq_ok_iff (obj : List (String × Json)) (key : String)
    (fields : List (String × Json)) :
    nestedObject obj key = .ok fields ↔ NestedObject (get obj key) fields := by
  unfold nestedObject NestedObject
  rcases found : obj.lookup key with _ | v
  · simp [get, found, eq_comm]
  · cases v <;> simp [get, found, eq_comm]

theorem nestedObject_eq_error {obj : List (String × Json)} {key : String} {f : Fault}
    (failed : nestedObject obj key = .error f) : PayloadRefusal f := by
  unfold nestedObject at failed
  -- absent, `null` and an object are read; anything else is refused
  split at failed
  · cases failed
  · cases failed
  · cases failed
  · exact ⟨_, (Except.error.inj failed).symm⟩

theorem namedIn_eq_none {metadata : List (String × Json)} (unnamed : namedIn metadata = none)
    {v : Json} (found : metadata.lookup "order_id" = some v) : v.truthy = false := by
  simpa [namedIn, get, found] using unnamed

theorem metadataOrderId_eq (obj : List (String × Json)) :
    metadataOrderId obj = nestedObject obj "metadata" >>= fun metadata =>
      match namedIn metadata with
      | some named => pure (some named)
      | none =>
        match get obj "payment_intent" with
        | .obj intent => namedIn <$> nestedObject intent "metadata"
        | _ => pure none := by
  unfold metadataOrderId
  rcases nestedObject obj "metadata" with f | metadata
  · rfl
  dsimp only [bind, Except.bind]
  rcases own : namedIn metadata with _ | named
  case some =>
    obtain ⟨v, found, truthy, shown⟩ :
        ∃ v, metadata.lookup "order_id" = some v ∧ v.truthy ∧ v.display = named := by
      unfold namedIn get at own
      rcases found : metadata.lookup "order_id" with _ | v
      · simp [found, Json.truthy] at own
      · by_cases truthy : v.truthy <;> simp_all
    simp [found, truthy, shown]
  case none =>
    -- either way the object's metadata names no order, and the intent is read
    split
    case' h_1 v found => rw [if_neg (by simp [namedIn_eq_none own found])]
    all_goals
      dsimp only
      rw [get]
      split
      next intent found =>
        simp only [found, Option.getD]
        rcases nestedObject intent "metadata" with f | intentMetadata
        · rfl
        · dsimp only [Functor.map, Except.map, namedIn, get]
          split
          next v found => by_cases named : v.truthy <;> simp [found, named, pure, Except.pure]
          next found => simp [found, pure, Except.pure, Json.truthy]
      next notObject =>
        split
        next intent isObject =>
          rcases found : obj.lookup "payment_intent" with _ | v
          · simp [found] at isObject
          · simp only [found, Option.getD] at isObject
            exact absurd (isObject ▸ found) (notObject intent)
        next => rfl

theorem nestedObject_ok_unique {obj : List (String × Json)} {key : String}
    {fields : List (String × Json)} (read : nestedObject obj key = .ok fields)
    (other : List (String × Json)) : NestedObject (get obj key) other ↔ other = fields := by
  rw [← nestedObject_eq_ok_iff, read, Except.ok.injEq, eq_comm]

theorem nestedObject_error_unread {obj : List (String × Json)} {key : String} {f : Fault}
    (failed : nestedObject obj key = .error f) (fields : List (String × Json)) :
    ¬NestedObject (get obj key) fields := by
  rw [← nestedObject_eq_ok_iff, failed]
  exact nofun

theorem metadataOrderId_eq_ok_iff (obj : List (String × Json)) (orderId : Option String) :
    metadataOrderId obj = .ok orderId ↔ OrderNamed obj orderId := by
  rw [metadataOrderId_eq, OrderNamed]
  cases reading : nestedObject obj "metadata" with
  | error f => simp [bind, Except.bind, nestedObject_error_unread reading]
  | ok metadata =>
    simp only [bind, Except.bind, nestedObject_ok_unique reading, exists_eq_left]
    cases namedIn metadata with
    | some named => simp [pure, Except.pure, eq_comm]
    | none =>
      dsimp only
      cases get obj "payment_intent" with
      | obj intent =>
        cases intentReading : nestedObject intent "metadata" with
        | error f =>
          simp [Functor.map, Except.map, intentReading, nestedObject_error_unread intentReading]
        | ok intentMetadata =>
          simp [Functor.map, Except.map, intentReading, nestedObject_ok_unique intentReading, eq_comm]
      | _ => simp [pure, Except.pure, eq_comm]

/-- Once the object's own metadata names the order, the payment intent is never looked at, so an
intent whose metadata is no object is accepted. -/
theorem metadataOrderId_of_named {obj metadata : List (String × Json)} {named : String}
    (read : nestedObject obj "metadata" = .ok metadata) (own : namedIn metadata = some named) :
    metadataOrderId obj = .ok (some named) := by
  rw [metadataOrderId_eq, read]
  simp [bind, Except.bind, own, pure, Except.pure]

theorem metadataOrderId_eq_error {obj : List (String × Json)} {f : Fault}
    (failed : metadataOrderId obj = .error f) : PayloadRefusal f := by
  rw [metadataOrderId_eq] at failed
  cases reading : nestedObject obj "metadata" with
  | error g =>
    simp only [reading, bind, Except.bind, Except.error.injEq] at failed
    exact nestedObject_eq_error (failed ▸ reading)
  | ok metadata =>
    simp only [reading, bind, Except.bind] at failed
    -- only the intent's metadata is left to refuse
    split at failed
    · cases failed
    · split at failed
      next intent _ =>
        cases intentReading : nestedObject intent "metadata" with
        | error g =>
          simp only [intentReading, Functor.map, Except.map, Except.error.injEq] at failed
          exact nestedObject_eq_error (failed ▸ intentReading)
        | ok intentMetadata => simp [intentReading, Functor.map, Except.map] at failed
      next => cases failed

/-! ## Amounts -/

theorem amountOf_eq_ok_iff (obj : List (String × Json)) (key currency : String) (amount : Float) :
    amountOf obj key currency = .ok amount ↔ AmountRead obj key currency amount := by
  unfold amountOf AmountRead majorUnits
  cases found : obj.lookup key with
  | none =>
    have absent : get obj key = .null := by simp [get, found]
    simp only [absent, Except.ok.injEq, true_and, reduceCtorEq, false_and, exists_false, or_false]
    exact eq_comm
  | some v =>
    have present : get obj key = v := by simp [get, found]
    rw [present]
    cases v
    case null =>
      simp only [Except.ok.injEq, true_and, reduceCtorEq, false_and, exists_false, or_false]
      exact eq_comm
    case int n => simp only [reduceCtorEq, false_and, Json.int.injEq, exists_eq_left', false_or]
    all_goals simp only [reduceCtorEq, false_and, exists_false, or_self]

theorem amountOf_eq_error {obj : List (String × Json)} {key currency : String} {f : Fault}
    (failed : amountOf obj key currency = .error f) :
    PayloadRefusal f ∨ ∃ n, get obj key = .int n ∧ majorUnits currency n = .error f := by
  unfold amountOf at failed
  split at failed
  · cases failed
  · cases failed
  next n found => exact .inr ⟨n, by simp [get, found], failed⟩
  · exact .inl ⟨_, (Except.error.inj failed).symm⟩

/-! ## The envelope -/

/-- A triple about a computation that may fail, from a true precondition, says what holds of its
result and of its failure. -/
theorem triple_iff_cases {α : Type} {x : Except Fault α} {Q : α → Prop} {E : Fault → Prop} :
    ⦃⌜True⌝⦄ x ⦃post⟨fun a => ⌜Q a⌝, fun f => ⌜E f⌝⟩⦄ ↔
      (∀ a, x = .ok a → Q a) ∧ ∀ f, x = .error f → E f := by
  have okWp (a : α) : (Except.ok a : Except Fault α) = pure a := rfl
  have errorWp (f : Fault) : (Except.error f : Except Fault α) = MonadExceptOf.throw f := rfl
  cases x with
  | ok a =>
    rw [okWp, Triple.iff, WP.pure]
    simp [← okWp]
  | error f =>
    rw [errorWp, Triple.iff, WP.throw_Except]
    simp [← errorWp]

theorem throw_spec {α : Type} {f : Fault} {Q : PostCond α (.except Fault .pure)} :
    ⦃Q.2.1 f⦄ (MonadExceptOf.throw f : Except Fault α) ⦃Q⦄ := by
  simp [Triple.iff, WP.throw_Except]

@[spec]
theorem nestedObject_spec (obj : List (String × Json)) (key : String) :
    ⦃⌜True⌝⦄ nestedObject obj key
    ⦃post⟨fun fields => ⌜NestedObject (get obj key) fields⌝, fun f => ⌜PayloadRefusal f⌝⟩⦄ :=
  triple_iff_cases.2 ⟨fun _ read => (nestedObject_eq_ok_iff _ _ _).1 read, fun _ => nestedObject_eq_error⟩

@[spec]
theorem metadataOrderId_spec (obj : List (String × Json)) :
    ⦃⌜True⌝⦄ metadataOrderId obj
    ⦃post⟨fun orderId => ⌜OrderNamed obj orderId⌝, fun f => ⌜PayloadRefusal f⌝⟩⦄ :=
  triple_iff_cases.2 ⟨fun _ read => (metadataOrderId_eq_ok_iff _ _).1 read,
    fun _ => metadataOrderId_eq_error⟩

@[spec]
theorem amountOf_spec (obj : List (String × Json)) (key currency : String) :
    ⦃⌜True⌝⦄ amountOf obj key currency
    ⦃post⟨fun amount => ⌜AmountRead obj key currency amount⌝,
      fun f => ⌜PayloadRefusal f ∨ ∃ n, get obj key = .int n ∧ majorUnits currency n = .error f⌝⟩⦄ :=
  triple_iff_cases.2 ⟨fun _ read => (amountOf_eq_ok_iff _ _ _ _).1 read, fun _ => amountOf_eq_error⟩

/-- A failure of decoding an envelope: a refusal of the payload, or an amount that cannot be
converted to major units. -/
def EnvelopeFailure (f : Fault) : Prop :=
  PayloadRefusal f ∨ ∃ currency n, majorUnits currency n = .error f

theorem decodes_intro {env data obj : List (String × Json)} {eventId eventType : String}
    {orderId : Option String} {e : Event}
    (header : (get env "id", get env "type") = (.str eventId, .str eventType))
    (dataIs : get env "data" = .obj data) (objectIs : get data "object" = .obj obj)
    (named : OrderNamed obj orderId) (read : ObjectEvent eventId eventType obj orderId e) :
    Decodes (.obj env) e := by
  simp only [Prod.mk.injEq] at header
  exact ⟨env, eventId, eventType, data, obj, orderId, rfl, header.1, header.2, dataIs, objectIs,
    named, read⟩

theorem amount_failure {obj : List (String × Json)} {key currency : String} {f : Fault}
    (failed : PayloadRefusal f ∨ ∃ n, get obj key = .int n ∧ majorUnits currency n = .error f) :
    EnvelopeFailure f := by
  rcases failed with refused | ⟨n, -, unconverted⟩
  · exact .inl refused
  · exact .inr ⟨currency, n, unconverted⟩

theorem decodeEnvelope_spec (v : Json) :
    ⦃⌜True⌝⦄ decodeEnvelope v ⦃post⟨fun e => ⌜Decodes v e⌝, fun f => ⌜EnvelopeFailure f⌝⟩⦄ := by
  mvcgen [decodeEnvelope, -Spec.throw_Except, throw_spec]
  -- the envelope's own refusals
  case vc1 | vc4 | vc8 | vc13 | vc14 | vc15 | vc16 => exact .inl ⟨_, rfl⟩
  -- a refusal of a nested reader, passed on
  case vc7 | vc12 => exact .inl
  case vc3 | vc6 | vc10 => exact amount_failure
  -- the four events
  case vc2 =>
    refine decodes_intro ‹_› ‹_› ‹_› ‹_› ?_
    rw [ObjectEvent, if_pos (beq_iff_eq.1 ‹_›)]
    exact ⟨by simpa using ‹¬(!(get _ "id").truthy) = true›, _, ‹_›, rfl⟩
  case vc5 =>
    refine decodes_intro ‹_› ‹_› ‹_› ‹_› ?_
    rw [ObjectEvent, if_neg (by simpa using ‹¬(_ == checkoutCompletedType) = true›),
      if_pos (beq_iff_eq.1 ‹(_ == paymentFailedType) = true›)]
    exact ⟨by simpa using ‹¬(!(get _ "id").truthy) = true›, _, _, ‹_›, ‹_›, rfl⟩
  case vc9 =>
    refine decodes_intro ‹_› ‹_› ‹_› ‹_› ?_
    rw [ObjectEvent, if_neg (by simpa using ‹¬(_ == checkoutCompletedType) = true›),
      if_neg (by simpa using ‹¬(_ == paymentFailedType) = true›),
      if_pos (beq_iff_eq.1 ‹(_ == chargeRefundedType) = true›)]
    exact ⟨by simpa using ‹¬(!(get _ "id").truthy) = true›, _, ‹_›, rfl⟩
  case vc11 =>
    refine decodes_intro ‹_› ‹_› ‹_› ‹_› ?_
    rw [ObjectEvent, if_neg (by simpa using ‹¬(_ == checkoutCompletedType) = true›),
      if_neg (by simpa using ‹¬(_ == paymentFailedType) = true›),
      if_neg (by simpa using ‹¬(_ == chargeRefundedType) = true›)]

theorem decodeEnvelope_of_decodes {v : Json} {e : Event} (decodes : Decodes v e) :
    decodeEnvelope v = .ok e := by
  obtain ⟨env, eventId, eventType, data, obj, orderId, rfl, idIs, typeIs, dataIs, objectIs, named,
    read⟩ := decodes
  have orderRead := (metadataOrderId_eq_ok_iff obj orderId).2 named
  unfold decodeEnvelope
  simp only [idIs, typeIs, dataIs, objectIs, orderRead, bind, Except.bind, pure, Except.pure]
  unfold ObjectEvent at read
  split_ifs at read with checkout failed refunded
  · obtain ⟨hasId, amount, amountRead, rfl⟩ := read
    have amountIs := (amountOf_eq_ok_iff _ _ _ _).2 amountRead
    rw [currencyOf] at amountIs
    simp [beq_iff_eq.2 checkout, hasId, amountIs, currencyOf]
  · obtain ⟨hasId, error, amount, errorRead, amountRead, rfl⟩ := read
    have amountIs := (amountOf_eq_ok_iff _ _ _ _).2 amountRead
    have errorIs := (nestedObject_eq_ok_iff _ _ _).2 errorRead
    rw [currencyOf] at amountIs
    have notCheckout : (eventType == checkoutCompletedType) = false := by simpa using checkout
    simp [notCheckout, beq_iff_eq.2 failed, hasId, amountIs, errorIs, currencyOf, reasonOf]
  · obtain ⟨hasId, amount, amountRead, rfl⟩ := read
    have amountIs := (amountOf_eq_ok_iff _ _ _ _).2 amountRead
    rw [currencyOf] at amountIs
    have notCheckout : (eventType == checkoutCompletedType) = false := by simpa using checkout
    have notFailed : (eventType == paymentFailedType) = false := by simpa using failed
    simp [notCheckout, notFailed, beq_iff_eq.2 refunded, hasId, amountIs, currencyOf]
  · have notCheckout : (eventType == checkoutCompletedType) = false := by simpa using checkout
    have notFailed : (eventType == paymentFailedType) = false := by simpa using failed
    have notRefunded : (eventType == chargeRefundedType) = false := by simpa using refunded
    simp [notCheckout, notFailed, notRefunded, read]

theorem decodeEnvelope_eq_ok_iff (v : Json) (e : Event) :
    decodeEnvelope v = .ok e ↔ Decodes v e := by
  constructor
  · exact (triple_iff_cases.1 (decodeEnvelope_spec v)).1 e
  · exact decodeEnvelope_of_decodes

theorem decodeEnvelope_eq_error {v : Json} {f : Fault} (failed : decodeEnvelope v = .error f) :
    EnvelopeFailure f := by
  exact (triple_iff_cases.1 (decodeEnvelope_spec v)).2 f failed

/-! ## Bodies -/

theorem decode_eq_ok_iff (body : List UInt8) (e : Event) :
    decode body = .ok e ↔ ∃ v, Json.parseBytes body = .ok v ∧ Decodes v e := by
  unfold decode
  cases parsed : Json.parseBytes body with
  | error err =>
    -- an unread body is never an event
    split <;> simp_all
  | ok v => simp [decodeEnvelope_eq_ok_iff]

theorem decode_eq_error {body : List UInt8} {f : Fault} (failed : decode body = .error f) :
    EnvelopeFailure f ∨ ∃ pos inArray,
      Json.parseBytes body = .error (.malformed pos (.tooDeep inArray)) ∧
        f = .recursion (Json.nestingMessage inArray) := by
  unfold decode at failed
  split at failed
  next pos inArray parsed => exact .inr ⟨pos, inArray, parsed, (Except.error.inj failed).symm⟩
  next => exact .inl (.inl ⟨_, (Except.error.inj failed).symm⟩)
  next => exact .inl (decodeEnvelope_eq_error failed)

theorem decode_accepts_grammar (body : List UInt8) :
    (∀ e, decode body = .ok e ↔ ∃ v, Json.parseBytes body = .ok v ∧ Decodes v e) ∧
    ∀ f, decode body = .error f →
      PayloadRefusal f ∨ (∃ currency n, majorUnits currency n = .error f) ∨
      ∃ pos inArray, Json.parseBytes body = .error (.malformed pos (.tooDeep inArray)) ∧
        f = .recursion (Json.nestingMessage inArray) := by
  refine ⟨decode_eq_ok_iff body, fun f failed => ?_⟩
  rcases decode_eq_error failed with (refused | unconverted) | tooDeep
  · exact .inl refused
  · exact .inr (.inl unconverted)
  · exact .inr (.inr tooDeep)

end Webhook

end Bazaar
