import Mathlib
import Bazaar.Proofs.Stock.Ledger

/-!
# Ledger calls interleaved

A call to the ledger is a loop of atomic steps: a read of the product, then a compare and swap
over the version read, again after a lost swap, up to its limit of attempts. `LedgerCall` records
where a call stands between two steps, with the attempts it has made and the writes that succeeded,
and `LedgerCall.step` takes one step. With no other call in between, a call answers as the ledger
does (`alone_reserve`, `alone_restore`). Calls in flight on one product take their steps in any
order a schedule gives (`interleave`).

The books of the product (`Books`) hold along every schedule: the store holds the first product
with its stock moved by the calls that returned and its version one further for each write, and a
call about to compare and swap read either the stored product itself or an older version of it.
Every write moves the version forward, so a swap over an older read loses, and a swap that wins
writes over the very product it read: no update is lost.
-/

namespace Bazaar

namespace Market

/-! ## Ledger calls, one atomic step at a time -/

/-- Which way a ledger call moves stock: taking it out (`reserve`) or putting it back
(`restore`). -/
inductive Movement where
  | take
  | putBack

/-- The stock a call writes over the stock it read. -/
def Movement.apply : Movement → Int → Int → Int
  | take, stock, q => stock - q
  | putBack, stock, q => stock + q

/-- What a call's write adds to the stock. -/
def Movement.change : Movement → Int → Int
  | take, q => -q
  | putBack, q => q

theorem Movement.apply_eq_add_change (mv : Movement) (stock q : Int) :
    mv.apply stock q = stock + mv.change q := by
  cases mv <;> simp [Movement.apply, Movement.change, Int.sub_eq_add_neg]

/-- Where a ledger call stands between its atomic steps. -/
inductive Phase where
  /-- About to read the product, with `left` compare-and-swap attempts left. -/
  | reading (left : Nat)
  /-- Read the product `read`, about to compare and swap over its version, with `left` attempts
  left after this one. -/
  | swapping (read : Product) (left : Nat)
  /-- Answered the product as read, or nothing for a product that is not stored. -/
  | returned (read : Option Product)
  /-- Failed. -/
  | raised (f : Fault)

/-- One client's call to the ledger on a product, with the attempts it has made and the writes
that succeeded. -/
structure LedgerCall where
  movement : Movement
  quantity : Int
  limit : Nat
  phase : Phase
  tries : Nat
  writes : Nat

namespace LedgerCall

/-- A call that has not started: `limit` attempts left, none made. -/
def Fresh (c : LedgerCall) : Prop :=
  c.phase = .reading c.limit ∧ c.tries = 0 ∧ c.writes = 0

/-- One atomic step of a call on the product `id`: a read of the product, or a compare and swap
over the version read. A finished call does not move. -/
def step (id : String) (c : LedgerCall) (m : Market) : LedgerCall × Market :=
  match c.phase with
  | .reading 0 => ({ c with phase := .raised (conflict id) }, m)
  | .reading (left + 1) =>
    match c.movement with
    | .take =>
      match run (getProduct id) m with
      | (.ok p, m') =>
        if (Quantity.whole p.stock).lt (.whole c.quantity) then
          ({ c with phase := .raised (Product.insufficient p.name (Json.int c.quantity).display
            (toString p.stock)) }, m')
        else ({ c with phase := .swapping p left }, m')
      | (.error f, m') => ({ c with phase := .raised f }, m')
    | .putBack =>
      match run (findProduct id) m with
      | (.ok none, m') => ({ c with phase := .returned none }, m')
      | (.ok (some p), m') => ({ c with phase := .swapping p left }, m')
      | (.error f, m') => ({ c with phase := .raised f }, m')
  | .swapping p left =>
    match run (compareAndSwap p.id (.int p.version)
        (.int (c.movement.apply p.stock c.quantity))) m with
    | (.ok true, m') =>
      ({ c with phase := .returned (some p), tries := c.tries + 1, writes := c.writes + 1 }, m')
    | (.ok false, m') => ({ c with phase := .reading left, tries := c.tries + 1 }, m')
    | (.error f, m') => ({ c with phase := .raised f, tries := c.tries + 1 }, m')
  | .returned _ => (c, m)
  | .raised _ => (c, m)

/-- `n` steps of a call with no other call in between. -/
def alone (id : String) : Nat → LedgerCall → Market → LedgerCall × Market
  | 0, c, m => (c, m)
  | n + 1, c, m => alone id n (c.step id m).1 (c.step id m).2

end LedgerCall

/-- The writes the ledger promises of a call in this phase: one once it has returned, none
before it has or after it failed. -/
def Phase.writes : Phase → Nat
  | .returned _ => 1
  | _ => 0

/-- The answer of a finished call, as the ledger gives it. -/
def Phase.answer : Phase → Option (Except Fault (Option Product))
  | .returned read => some (.ok read)
  | .raised f => some (.error f)
  | _ => none

theorem run_bind {α β : Type} (x : MarketM α) (f : α → MarketM β) (m : Market) :
    run (x >>= f) m =
      match run x m with
      | (.ok a, m') => run (f a) m'
      | (.error e, m') => (.error e, m') := by
  unfold run
  rw [ExceptT.run_bind, StateT.run_bind]
  rcases StateT.run (ExceptT.run x) m with ⟨_ | a, m'⟩ <;> rfl

theorem run_fail {α : Type} (f : Fault) (m : Market) :
    run (fail f : MarketM α) m = (.error f, m) :=
  rfl

theorem run_pure {α : Type} (a : α) (m : Market) : run (pure a : MarketM α) m = (.ok a, m) :=
  rfl

theorem run_attemptsOf_int {n : Int} (given : n ≠ 0) (m : Market) :
    run (attemptsOf (.int n)) m = (.ok n.toNat, m) := by
  simp [attemptsOf, Json.truthy, given, currentSettings]
  rfl

/-- Taking out a whole quantity of at least one, with a number of attempts given, is the attempt
loop. -/
theorem run_reserve_int (id : String) {q n : Int} (units : 1 ≤ q) (given : n ≠ 0) (m : Market) :
    run (reserve id (.int q) (.int n)) m = run (reserve.go id (.int q) (.whole q) n.toNat) m := by
  have checked : ¬ q < 1 := not_lt.2 units
  simp only [reserve, checkQuantity_int, checked, if_false, run_bind, run_attemptsOf_int given]
  rfl

/-- Putting back a whole quantity of at least one, with a number of attempts given, is the
attempt loop. -/
theorem run_restore_int (id : String) {q n : Int} (units : 1 ≤ q) (given : n ≠ 0) (m : Market) :
    run (restore id (.int q) (.int n)) m = run (restore.go id (.whole q) n.toNat) m := by
  have checked : ¬ q < 1 := not_lt.2 units
  simp only [restore, checkQuantity_int, checked, if_false, run_bind, run_attemptsOf_int given]
  rfl

namespace LedgerCall

theorem step_of_answer {id : String} {c : LedgerCall} {m : Market}
    {r : Except Fault (Option Product)} (finished : c.phase.answer = some r) :
    c.step id m = (c, m) := by
  unfold step
  cases phase : c.phase with
  | returned read => rfl
  | raised f => rfl
  | reading left => simp [phase, Phase.answer] at finished
  | swapping read left => simp [phase, Phase.answer] at finished

theorem alone_of_answer {id : String} {c : LedgerCall} {m : Market}
    {r : Except Fault (Option Product)} (finished : c.phase.answer = some r) (n : Nat) :
    c.alone id n m = (c, m) := by
  induction n with
  | zero => rfl
  | succ n ih => rw [alone, step_of_answer finished, ih]

/-- Left alone for `n` steps, the call `c` answers as the operation `act` does, read through
`answer`, and leaves the market as `act` does. -/
def AnswersAs {α : Type} (id : String) (answer : Except Fault α → Except Fault (Option Product))
    (n : Nat) (c : LedgerCall) (act : MarketM α) : Prop :=
  ∀ m, (c.alone id n m).1.phase.answer = some (answer (run act m).1) ∧
    (c.alone id n m).2 = (run act m).2

/-- Alone, a call about to compare and swap over the product `p` it read goes on as the attempt
loop does after its read: `win` is the loop's answer once it has written and `retry` the rest of
the loop after a lost swap. -/
theorem alone_swapping {α : Type} (id : String)
    (answer : Except Fault α → Except Fault (Option Product)) (win : α) (retry : MarketM α)
    {c : LedgerCall} {p : Product} {left : Nat} (phase : c.phase = .swapping p left)
    (won : answer (.ok win) = .ok (some p)) (failed : ∀ f, answer (.error f) = .error f)
    (again : AnswersAs id answer (2 * left + 1)
      { c with phase := .reading left, tries := c.tries + 1 } retry) :
    AnswersAs id answer (2 * left + 1 + 1) c
      (compareAndSwap p.id (.int p.version) (.int (c.movement.apply p.stock c.quantity)) >>=
        fun wrote => if wrote then pure win else retry) := by
  intro m
  rw [alone, run_bind]
  rcases swapped : run (compareAndSwap p.id (.int p.version)
      (.int (c.movement.apply p.stock c.quantity))) m with ⟨_ | _ | _, m₁⟩
  · -- the compare and swap failed
    have stepped :
        c.step id m = ({ c with phase := .raised ‹_›, tries := c.tries + 1 }, m₁) := by
      simp [step, phase, swapped]
    rw [stepped, alone_of_answer rfl]
    simp [Phase.answer, failed]
  · -- it lost to another writer: the next attempt reads again
    have stepped :
        c.step id m = ({ c with phase := .reading left, tries := c.tries + 1 }, m₁) := by
      simp [step, phase, swapped]
    rw [stepped]
    simpa using again m₁
  · -- it wrote
    have stepped : c.step id m =
        ({ c with phase := .returned (some p), tries := c.tries + 1, writes := c.writes + 1 },
          m₁) := by
      simp [step, phase, swapped]
    rw [stepped, alone_of_answer rfl]
    simp [Phase.answer, run_pure, won]

/-- Alone, a call taking out `q` units with `left` attempts answers as the ledger's attempt loop
does, in at most two steps per attempt and one more. -/
theorem alone_take (id : String) (q : Int) :
    ∀ (left : Nat) (c : LedgerCall), c.movement = .take → c.quantity = q →
      c.phase = .reading left →
      AnswersAs id (·.map some) (2 * left + 1) c (reserve.go id (.int q) (.whole q) left) := by
  intro left
  induction left with
  | zero =>
    intro c _ _ reading m
    simp [alone, step, reading, reserve.go, run_fail, Phase.answer, Except.map]
  | succ left ih =>
    intro c taking units reading m
    have twoMore : 2 * (left + 1) + 1 = 2 * left + 1 + 1 + 1 := by ring
    rw [twoMore, alone, reserve.go, run_bind]
    rcases got : run (getProduct id) m with ⟨_ | p, m₁⟩
    · -- the product is not stored
      have stepped : c.step id m = ({ c with phase := .raised ‹_› }, m₁) := by
        simp [step, reading, taking, got]
      rw [stepped, alone_of_answer rfl]
      simp [Phase.answer, Except.map]
    · by_cases short : (Quantity.whole p.stock).lt (.whole q) = true
      · -- the stock read does not cover the quantity
        have stepped : c.step id m = ({ c with phase := .raised (Product.insufficient p.name
            (Json.int q).display (toString p.stock)) }, m₁) := by
          simp [step, reading, taking, got, units, short]
        rw [stepped, alone_of_answer rfl]
        simp [short, run_bind, run_fail, Phase.answer, Except.map]
      · have stepped : c.step id m = ({ c with phase := .swapping p left }, m₁) := by
          simp [step, reading, taking, got, units, short]
        have newStock : (Quantity.subFrom p.stock (.whole q)).toJson =
            .int (c.movement.apply p.stock c.quantity) := by
          rw [taking, units]
          rfl
        rw [stepped]
        simp only [short, Bool.false_eq_true, if_false, newStock]
        exact alone_swapping id (·.map some) p _ (c := { c with phase := .swapping p left })
          rfl rfl (fun _ => rfl) (ih _ taking units rfl) m₁

/-- Alone, a call putting back `q` units with `left` attempts answers as the ledger's attempt loop
does, in at most two steps per attempt and one more. -/
theorem alone_putBack (id : String) (q : Int) :
    ∀ (left : Nat) (c : LedgerCall), c.movement = .putBack → c.quantity = q →
      c.phase = .reading left →
      AnswersAs id (fun r => r) (2 * left + 1) c (restore.go id (.whole q) left) := by
  intro left
  induction left with
  | zero =>
    intro c _ _ reading m
    simp [alone, step, reading, restore.go, run_fail, Phase.answer]
  | succ left ih =>
    intro c puttingBack units reading m
    have twoMore : 2 * (left + 1) + 1 = 2 * left + 1 + 1 + 1 := by ring
    rw [twoMore, alone, restore.go, run_bind]
    rcases found : run (findProduct id) m with ⟨_ | _ | p, m₁⟩
    · -- the read failed
      have stepped : c.step id m = ({ c with phase := .raised ‹_› }, m₁) := by
        simp [step, reading, puttingBack, found]
      rw [stepped, alone_of_answer rfl]
      simp [Phase.answer]
    · -- the product is not stored: nothing to put back
      have stepped : c.step id m = ({ c with phase := .returned none }, m₁) := by
        simp [step, reading, puttingBack, found]
      rw [stepped, alone_of_answer rfl]
      simp [Phase.answer, run_pure]
    · have stepped : c.step id m = ({ c with phase := .swapping p left }, m₁) := by
        simp [step, reading, puttingBack, found]
      have newStock : (Quantity.addTo p.stock (.whole q)).toJson =
          .int (c.movement.apply p.stock c.quantity) := by
        rw [puttingBack, units]
        rfl
      rw [stepped]
      simp only [newStock]
      exact alone_swapping id (fun r => r) (some p) _ (c := { c with phase := .swapping p left })
        rfl rfl (fun _ => rfl) (ih _ puttingBack units rfl) m₁

/-- Alone, a fresh call taking out `q` units with `n` attempts answers as `reserve` does and leaves
the market as it does. -/
theorem alone_reserve {id : String} {q n : Int} (units : 1 ≤ q) (given : n ≠ 0) {c : LedgerCall}
    (fresh : c.Fresh) (taking : c.movement = .take) (quantity : c.quantity = q)
    (limit : c.limit = n.toNat) :
    AnswersAs id (·.map some) (2 * c.limit + 1) c (reserve id (.int q) (.int n)) := by
  intro m
  rw [run_reserve_int id units given, ← limit]
  exact alone_take id q c.limit c taking quantity fresh.1 m

/-- Alone, a fresh call putting back `q` units with `n` attempts answers as `restore` does and
leaves the market as it does. -/
theorem alone_restore {id : String} {q n : Int} (units : 1 ≤ q) (given : n ≠ 0) {c : LedgerCall}
    (fresh : c.Fresh) (puttingBack : c.movement = .putBack) (quantity : c.quantity = q)
    (limit : c.limit = n.toNat) :
    AnswersAs id (fun r => r) (2 * c.limit + 1) c (restore id (.int q) (.int n)) := by
  intro m
  rw [run_restore_int id units given, ← limit]
  exact alone_putBack id q c.limit c puttingBack quantity fresh.1 m

/-- The stock a call has moved: its change once it has returned a product, nothing otherwise. -/
def moved (c : LedgerCall) : Int :=
  match c.phase with
  | .returned (some _) => c.movement.change c.quantity
  | _ => 0

/-- The invariant of a call on the product `id` while `cur` is stored under it: the attempts made
and left fit the limit, a call has written once if it returned and never otherwise, and a product
it is about to compare and swap over is `cur` itself or an older version of it. -/
def Sound (id : String) (cur : Product) (c : LedgerCall) : Prop :=
  match c.phase with
  | .reading left => c.tries + left ≤ c.limit ∧ c.writes = 0
  | .swapping p left =>
    c.tries + left + 1 ≤ c.limit ∧ c.writes = 0 ∧ p.id = id ∧
      (p.version < cur.version ∨ p = cur)
  | .returned read => c.tries ≤ c.limit ∧ c.writes = 1 ∧ read.isSome
  | .raised _ => c.tries ≤ c.limit ∧ c.writes = 0

theorem Fresh.sound {c : LedgerCall} (fresh : c.Fresh) (id : String) (cur : Product) :
    c.Sound id cur := by
  obtain ⟨reading, noTries, noWrites⟩ := fresh
  simp [Sound, reading, noTries, noWrites]

theorem Fresh.moved {c : LedgerCall} (fresh : c.Fresh) : c.moved = 0 := by
  simp [LedgerCall.moved, fresh.1]

/-- A newer stored product keeps every call sound: what a call read is now out of date. -/
theorem Sound.of_newer {id : String} {cur cur' : Product} {c : LedgerCall}
    (newer : cur.version < cur'.version) (sound : c.Sound id cur) : c.Sound id cur' := by
  unfold Sound at sound ⊢
  cases phase : c.phase with
  | swapping p left =>
    simp only [phase] at sound ⊢
    obtain ⟨fits, unwritten, named, older | rfl⟩ := sound
    · exact ⟨fits, unwritten, named, .inl (older.trans newer)⟩
    · exact ⟨fits, unwritten, named, .inl newer⟩
  | reading left => simpa only [phase] using sound
  | returned read => simpa only [phase] using sound
  | raised f => simpa only [phase] using sound

/-- The step of `c` from the market `m` writes nothing: the store is as it was, and the call has
moved and written nothing more and is still sound while `cur` is stored. -/
def Unwritten (id : String) (cur : Product) (c : LedgerCall) (m : Market) : Prop :=
  (c.step id m).2.store = m.store ∧ (c.step id m).1.moved = c.moved ∧
    (c.step id m).1.writes = c.writes ∧ (c.step id m).1.Sound id cur

/-- A read writes nothing: it refuses, or it moves on to compare and swap over the stored product
itself. -/
theorem unwritten_of_reading {id : String} {cur : Product} {c : LedgerCall} {m : Market}
    {left : Nat} (found : m.store.products.find? (·.id == id) = some cur)
    (phase : c.phase = .reading left) (fits : c.tries + left ≤ c.limit) (unwritten : c.writes = 0) :
    c.Unwritten id cur m := by
  have named : cur.id = id := id_of_find?_product found
  cases left with
  | zero =>
    simp [Unwritten, step, phase, moved, Sound, unwritten]
    omega
  | succ left =>
    cases movement : c.movement with
    | take =>
      have got := run_of_triple (P := fun m' => m' = m) rfl (getProduct_spec id m)
      rcases outcome : run (getProduct id) m with ⟨_ | p, m₁⟩ <;> simp only [outcome] at got
      · simp [found] at got
      · obtain ⟨rfl, read, -⟩ := got
        obtain rfl : p = cur := by simpa [found] using read.symm
        by_cases short : (Quantity.whole p.stock).lt (.whole c.quantity) = true
        · simp [Unwritten, step, phase, movement, outcome, short, moved, Sound, unwritten]
          omega
        · simp [Unwritten, step, phase, movement, outcome, short, moved, Sound, unwritten, named]
          omega
    | putBack =>
      have got := run_of_triple (P := fun m' => m' = m) rfl (findProduct_spec id m)
      -- the product is stored, so the read finds it
      rcases outcome : run (findProduct id) m with ⟨_ | _ | p, m₁⟩ <;>
        simp only [outcome] at got
      · simp [found] at got
      · obtain ⟨rfl, read, -⟩ := got
        obtain rfl : p = cur := by simpa [found] using read.symm
        simp [Unwritten, step, phase, movement, outcome, moved, Sound, unwritten, named]
        omega

/-- A compare and swap over a read that is out of date loses; one over the stored product itself
writes the call's new stock over it at the next version, or fails and writes nothing. -/
theorem step_of_swapping {id : String} {cur p : Product} {c : LedgerCall} {m : Market}
    {left : Nat} (found : m.store.products.find? (·.id == id) = some cur)
    (phase : c.phase = .swapping p left) (sound : c.Sound id cur) :
    c.Unwritten id cur m ∨
      p = cur ∧ 0 ≤ c.movement.apply cur.stock c.quantity ∧
        (c.step id m).1 =
          { c with phase := .returned (some cur), tries := c.tries + 1, writes := c.writes + 1 } ∧
        (c.step id m).2.store = m.store.putProduct
          { cur with
            stock := c.movement.apply cur.stock c.quantity
            version := cur.version + 1 } := by
  simp only [Sound, phase] at sound
  obtain ⟨fits, unwritten, named, current⟩ := sound
  have swapped := run_of_triple (P := fun m' => m'.store = m.store) rfl
    (compareAndSwap_spec p.id p.version (c.movement.apply p.stock c.quantity) m.store)
  rcases outcome : run (compareAndSwap p.id (.int p.version)
      (.int (c.movement.apply p.stock c.quantity))) m with ⟨_ | _ | _, m₁⟩ <;>
    simp only [outcome] at swapped
  · -- the compare and swap failed, writing nothing
    left
    simp [Unwritten, step, phase, outcome, swapped, moved, Sound, unwritten]
    omega
  · -- it lost to a newer version: the call reads again
    left
    simp at swapped
    simp [Unwritten, step, phase, outcome, swapped, moved, Sound, unwritten]
    omega
  · -- it wrote, so the version read is the stored one and the product read is `cur`
    simp only [if_true] at swapped
    obtain ⟨nonneg, stored, storedFound, sameVersion, store⟩ := swapped
    rw [named, found] at storedFound
    cases storedFound
    obtain rfl : p = cur := current.resolve_left (by omega)
    right
    exact ⟨rfl, nonneg, by simp [step, phase, outcome], by simp [step, phase, outcome, store]⟩

/-- One step of a sound call while the product `id` is stored as `cur`: either it writes nothing,
or the call was about to compare and swap over `cur` itself, writes its new stock over `cur` at
the next version and returns `cur`. -/
theorem step_cases {id : String} {cur : Product} {c : LedgerCall} {m : Market}
    (found : m.store.products.find? (·.id == id) = some cur) (sound : c.Sound id cur) :
    c.Unwritten id cur m ∨
      ∃ left, c.phase = .swapping cur left ∧ 0 ≤ c.movement.apply cur.stock c.quantity ∧
        (c.step id m).1 =
          { c with phase := .returned (some cur), tries := c.tries + 1, writes := c.writes + 1 } ∧
        (c.step id m).2.store = m.store.putProduct
          { cur with
            stock := c.movement.apply cur.stock c.quantity
            version := cur.version + 1 } := by
  cases phase : c.phase with
  | reading left =>
    have facts := sound
    simp only [Sound, phase] at facts
    exact .inl (unwritten_of_reading found phase facts.1 facts.2)
  | swapping p left =>
    exact (step_of_swapping found phase sound).imp_right fun ⟨same, wrote⟩ => ⟨left, same ▸ rfl, wrote⟩
  | returned read =>
    have stays : c.step id m = (c, m) := step_of_answer (by rw [phase]; rfl)
    exact .inl ⟨by rw [stays], by rw [stays], by rw [stays], by rw [stays]; exact sound⟩
  | raised f =>
    have stays : c.step id m = (c, m) := step_of_answer (by rw [phase]; rfl)
    exact .inl ⟨by rw [stays], by rw [stays], by rw [stays], by rw [stays]; exact sound⟩

/-- What the ledger promises of a sound call holds: at most `limit` attempts, and the writes of
its phase. -/
theorem Sound.accounted {id : String} {cur : Product} {c : LedgerCall} (sound : c.Sound id cur) :
    c.tries ≤ c.limit ∧ c.writes = c.phase.writes := by
  unfold Sound at sound
  cases phase : c.phase <;> simp only [phase] at sound <;> simp only [Phase.writes] <;> omega

end LedgerCall

/-! ## Calls in flight on one product -/

/-- One atomic step of the `i`-th call in flight; when there is no such call, nothing moves. -/
def stepCall (id : String) (i : Nat) (s : List LedgerCall × Market) : List LedgerCall × Market :=
  match s.1[i]? with
  | some c => (s.1.set i (c.step id s.2).1, (c.step id s.2).2)
  | none => s

/-- The calls and the market after a schedule of steps, each the step of the call it names. -/
def interleave (id : String) (schedule : List Nat) (s : List LedgerCall × Market) :
    List LedgerCall × Market :=
  schedule.foldl (fun s i => stepCall id i s) s

/-- The product `p₀` after the calls in flight on it: its stock moved by what the calls moved,
its version one further for each write. -/
def productAfter (p₀ : Product) (calls : List LedgerCall) : Product :=
  { p₀ with
    stock := p₀.stock + (calls.map LedgerCall.moved).sum
    version := p₀.version + (calls.map LedgerCall.writes).sum }

/-- The step of the `i`-th call from `s` to `s'` writes the product `id`: the call was about to
compare and swap over `cur`, which is still stored, and the store now holds `cur` with the call's
new stock at the next version, the call having returned `cur` after one more attempt and one more
write. -/
def WritesCurrent (id : String) (i : Nat) (s s' : List LedgerCall × Market) : Prop :=
  ∃ c cur left, s.1[i]? = some c ∧ c.phase = .swapping cur left ∧
    s.2.store.products.find? (·.id == id) = some cur ∧
    s'.2.store = s.2.store.putProduct
      { cur with stock := c.movement.apply cur.stock c.quantity, version := cur.version + 1 } ∧
    s'.1[i]? = some
      { c with phase := .returned (some cur), tries := c.tries + 1, writes := c.writes + 1 }

/-- Replacing the call at `i` changes a sum over the calls by the difference. -/
theorem sum_map_set_add {M : Type} [AddCommMonoid M] (f : LedgerCall → M) (c' : LedgerCall) :
    ∀ {calls : List LedgerCall} {i : Nat} {c : LedgerCall}, calls[i]? = some c →
      ((calls.set i c').map f).sum + f c = (calls.map f).sum + f c'
  | d :: ds, 0, c, stands => by
    obtain rfl : d = c := by simpa using stands
    simp only [List.set_cons_zero, List.map_cons, List.sum_cons]
    abel
  | d :: ds, i + 1, c, stands => by
    have rest := sum_map_set_add f c' (by simpa using stands : ds[i]? = some c)
    simp only [List.set_cons_succ, List.map_cons, List.sum_cons, add_assoc, rest]

theorem productAfter_set {p₀ : Product} {calls : List LedgerCall} {i : Nat} {c : LedgerCall}
    (stands : calls[i]? = some c) (c' : LedgerCall) :
    productAfter p₀ (calls.set i c') =
      { productAfter p₀ calls with
        stock := (productAfter p₀ calls).stock + (c'.moved - c.moved)
        version := (productAfter p₀ calls).version + ((c'.writes : Int) - c.writes) } := by
  have movedSum := sum_map_set_add LedgerCall.moved c' stands
  have writesSum := sum_map_set_add LedgerCall.writes c' stands
  simp only [productAfter, Product.mk.injEq, true_and, and_true]
  exact ⟨by omega, by omega⟩

/-- The books of the product `id`, first stored as `p₀`, while calls are in flight on it: the
store holds `p₀` as the calls have moved and written it, its stock is not negative, and every call
is sound. -/
structure Books (id : String) (p₀ : Product) (s : List LedgerCall × Market) : Prop where
  stored : s.2.store.products.find? (·.id == id) = some (productAfter p₀ s.1)
  nonneg : 0 ≤ (productAfter p₀ s.1).stock
  sound : ∀ c ∈ s.1, c.Sound id (productAfter p₀ s.1)

namespace Books

variable {id : String} {p₀ : Product}

theorem start {calls : List LedgerCall} {m : Market}
    (stored : m.store.products.find? (·.id == id) = some p₀) (nonneg : 0 ≤ p₀.stock)
    (fresh : ∀ c ∈ calls, c.Fresh) : Books id p₀ (calls, m) := by
  have noMoves : (calls.map LedgerCall.moved).sum = 0 :=
    List.sum_eq_zero (by simpa using fun c member => (fresh c member).moved)
  have noWrites : (calls.map LedgerCall.writes).sum = 0 :=
    List.sum_eq_zero (by simpa using fun c member => (fresh c member).2.2)
  have untouched : productAfter p₀ calls = p₀ := by
    simp [productAfter, noMoves, noWrites]
  exact ⟨by simpa [untouched] using stored, by simpa [untouched] using nonneg,
    fun c member => (fresh c member).sound id _⟩

variable {s : List LedgerCall × Market} {i : Nat} {c : LedgerCall}

/-- A step of the `i`-th call that writes nothing keeps the books: the product is as it was for
every call. -/
theorem set_unwritten (books : Books id p₀ s) (stands : s.1[i]? = some c)
    (unwritten : c.Unwritten id (productAfter p₀ s.1) s.2) :
    Books id p₀ (s.1.set i (c.step id s.2).1, (c.step id s.2).2) := by
  obtain ⟨store, moved, writes, sound⟩ := unwritten
  have same : productAfter p₀ (s.1.set i (c.step id s.2).1) = productAfter p₀ s.1 := by
    rw [productAfter_set stands, moved, writes]
    simp only [sub_self, add_zero]
  refine ⟨by rw [same, store]; exact books.stored, by rw [same]; exact books.nonneg, ?_⟩
  intro d member
  rw [same]
  rcases List.mem_or_eq_of_mem_set member with old | rfl
  · exact books.sound d old
  · exact sound

/-- A step of the `i`-th call that writes over the stored product keeps the books: the call has
returned, and every other read is now out of date. -/
theorem set_written (books : Books id p₀ s) (stands : s.1[i]? = some c) {left : Nat}
    (phase : c.phase = .swapping (productAfter p₀ s.1) left)
    (nonneg : 0 ≤ c.movement.apply (productAfter p₀ s.1).stock c.quantity)
    (stepped : (c.step id s.2).1 =
      { c with
        phase := .returned (some (productAfter p₀ s.1))
        tries := c.tries + 1
        writes := c.writes + 1 })
    (store : (c.step id s.2).2.store = s.2.store.putProduct
      { productAfter p₀ s.1 with
        stock := c.movement.apply (productAfter p₀ s.1).stock c.quantity
        version := (productAfter p₀ s.1).version + 1 }) :
    Books id p₀ (s.1.set i (c.step id s.2).1, (c.step id s.2).2) := by
  have named : (productAfter p₀ s.1).id = id := id_of_find?_product books.stored
  have written : productAfter p₀ (s.1.set i (c.step id s.2).1) =
      { productAfter p₀ s.1 with
        stock := c.movement.apply (productAfter p₀ s.1).stock c.quantity
        version := (productAfter p₀ s.1).version + 1 } := by
    rw [productAfter_set stands, stepped, Movement.apply_eq_add_change]
    simp [LedgerCall.moved, phase]
  have newer : (productAfter p₀ s.1).version <
      (productAfter p₀ (s.1.set i (c.step id s.2).1)).version := by
    rw [written]
    exact lt_add_one _
  refine ⟨?_, by rw [written]; exact nonneg, ?_⟩
  · rw [written, store, Store.putProduct_products, ← named]
    exact find?_upsert_self { productAfter p₀ s.1 with
      stock := c.movement.apply (productAfter p₀ s.1).stock c.quantity
      version := (productAfter p₀ s.1).version + 1 } s.2.store.products
  · intro d member
    rcases List.mem_or_eq_of_mem_set member with old | rfl
    · exact (books.sound d old).of_newer newer
    · have fits := books.sound c (List.mem_of_getElem? stands)
      simp only [LedgerCall.Sound, phase] at fits
      rw [stepped]
      simp only [LedgerCall.Sound, Option.isSome_some, and_true]
      omega

/-- The step of any call keeps the books. -/
theorem step (books : Books id p₀ s) (i : Nat) : Books id p₀ (stepCall id i s) := by
  unfold stepCall
  cases stands : s.1[i]? with
  | none => exact books
  | some c =>
    rcases LedgerCall.step_cases books.stored (books.sound c (List.mem_of_getElem? stands)) with
      unwritten | ⟨left, phase, nonneg, stepped, store⟩
    · exact books.set_unwritten stands unwritten
    · exact books.set_written stands phase nonneg stepped store

/-- Every schedule of steps keeps the books. -/
theorem interleave (schedule : List Nat) :
    ∀ {s : List LedgerCall × Market}, Books id p₀ s →
      Books id p₀ (Market.interleave id schedule s) := by
  induction schedule with
  | nil => exact fun books => books
  | cons i rest ih => exact fun books => ih (books.step i)

/-- Under the books, the step of a call leaves the store as it was, or writes over the stored
product the call read. -/
theorem step_store (books : Books id p₀ s) (i : Nat) :
    (stepCall id i s).2.store = s.2.store ∨ WritesCurrent id i s (stepCall id i s) := by
  unfold stepCall
  cases stands : s.1[i]? with
  | none => exact .inl rfl
  | some c =>
    have member : c ∈ s.1 := List.mem_of_getElem? stands
    rcases LedgerCall.step_cases books.stored (books.sound c member) with
      ⟨store, -⟩ | ⟨left, phase, -, stepped, store⟩
    · exact .inl store
    · have within : i < s.1.length := (List.getElem?_eq_some_iff.1 stands).1
      refine .inr ⟨c, _, left, stands, phase, books.stored, store, ?_⟩
      simp [stepped, within]

end Books

/-- However the atomic steps of ledger calls on one product interleave, no update is lost. From
fresh calls on a product stored as `p₀` with a stock that is not negative, after any schedule of
their steps: the stored product is `p₀` with its version one further for each successful write
and its stock moved by exactly the calls that returned, less each take and plus each put back; the
stock is not negative; every call has made at most its limit of attempts, has written once if it
returned and never if it failed or is still running; and each next step either leaves the store
as it is or is a compare and swap over the stored product itself by a call that read it, writing
that call's new stock at the next version. -/
theorem interleaved_ledger_calls_lose_no_update {id : String} {p₀ : Product}
    {calls : List LedgerCall} {m : Market}
    (stored : m.store.products.find? (·.id == id) = some p₀) (nonneg : 0 ≤ p₀.stock)
    (fresh : ∀ c ∈ calls, c.Fresh) (schedule : List Nat) :
    let s := interleave id schedule (calls, m)
    s.2.store.products.find? (·.id == id) = some { p₀ with
        stock := p₀.stock + (s.1.map LedgerCall.moved).sum
        version := p₀.version + (s.1.map LedgerCall.writes).sum } ∧
      0 ≤ p₀.stock + (s.1.map LedgerCall.moved).sum ∧
      (∀ c ∈ s.1, c.tries ≤ c.limit ∧ c.writes = c.phase.writes) ∧
      ∀ i, (stepCall id i s).2.store = s.2.store ∨ WritesCurrent id i s (stepCall id i s) := by
  intro s
  have books : Books id p₀ s := (Books.start stored nonneg fresh).interleave schedule
  exact ⟨books.stored, books.nonneg, fun c member => (books.sound c member).accounted,
    books.step_store⟩

/-- A desk lamp with five in stock, at its first version. -/
def deskLamp : Product := ⟨"lamp", "Desk Lamp", 25.0, 5, 0, none, true, true⟩

/-- A marketplace with the desk lamp only. -/
def lampShelf : Market where
  store := { products := [deskLamp] }

/-- Two clients each taking three desk lamps, with two attempts apiece. -/
def twoTakes : List LedgerCall :=
  [⟨.take, 3, 2, .reading 2, 0, 0⟩, ⟨.take, 3, 2, .reading 2, 0, 0⟩]

/-- A schedule in which both clients read five lamps, the first writes two, and the second loses
its compare and swap, reads two and is refused. -/
theorem racing_takes_lose_no_update :
    lampShelf.store.products.find? (·.id == "lamp") = some deskLamp ∧ 0 ≤ deskLamp.stock ∧
      (∀ c ∈ twoTakes, c.Fresh) ∧
      let s := interleave "lamp" [0, 1, 0, 1, 1] (twoTakes, lampShelf)
      s.2.store.products.find? (·.id == "lamp") = some { deskLamp with
          stock := deskLamp.stock + (s.1.map LedgerCall.moved).sum
          version := deskLamp.version + (s.1.map LedgerCall.writes).sum } ∧
        0 ≤ deskLamp.stock + (s.1.map LedgerCall.moved).sum ∧
        (∀ c ∈ s.1, c.tries ≤ c.limit ∧ c.writes = c.phase.writes) ∧
        ∀ i, (stepCall "lamp" i s).2.store = s.2.store ∨
          WritesCurrent "lamp" i s (stepCall "lamp" i s) := by
  have fresh : ∀ c ∈ twoTakes, c.Fresh := by
    simp [twoTakes, LedgerCall.Fresh]
  exact ⟨rfl, by decide, fresh, interleaved_ledger_calls_lose_no_update rfl (by decide) fresh _⟩

end Market

end Bazaar
