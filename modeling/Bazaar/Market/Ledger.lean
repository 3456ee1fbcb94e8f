import Bazaar.Market.State
import Bazaar.Number.Shortest

/-!
# The stock ledger

Stock is taken out and put back only through the ledger. Each attempt reads the product, computes
the new stock and writes it by compare and swap on the version read; a write that loses to another
writer is tried again, a bounded number of times, and then refused as a conflict. Taking out more
than the stock is refused before any write; putting stock back to a product that no longer exists
does nothing.

Quantities are numbers as given: an integer, a truth value (one or zero) or a double. A double
with a fraction reaches the stock field, which refuses it.
-/

namespace Bazaar

/-- A number as given to the ledger: an integer, or a double. -/
inductive Quantity where
  | whole (n : Int)
  | real (x : Float)

namespace Quantity

/-- The quantity of a value; texts, lists, objects and `null` are none. -/
def ofJson? : Json → Option Quantity
  | .int n => some (whole n)
  | .bool b => some (whole (if b then 1 else 0))
  | .float x => some (real x)
  | _ => none

/-- The quantity as a value. -/
def toJson : Quantity → Json
  | whole n => .int n
  | real x => .float x

/-- A whole number as the nearest double. -/
def floatOfInt (n : Int) : Float :=
  Float.ofDecimal (n < 0) n.natAbs 0

/-- How a whole number compares with a double, exactly; `none` for NaN. -/
def compareWhole (a : Int) (x : Float) : Option Ordering :=
  match Binary.ofFloat x with
  | .nan => none
  | .infinite negative => some (if negative then .gt else .lt)
  | .finite negative m q =>
    -- compare `a · 2^k` with `±m · 2^(q + k)`, scaled so that both sides are whole
    let k : Nat := (-q).toNat
    let lhs : Int := a * (Nat.pow 2 k : Int)
    let mag : Int := (m * Nat.pow 2 (q + k).toNat : Nat)
    some (Ord.compare lhs (if negative then -mag else mag))

/-- How two quantities compare, exactly; `none` when a NaN is involved. -/
def compare : Quantity → Quantity → Option Ordering
  | whole a, whole b => some (Ord.compare a b)
  | whole a, real y => compareWhole a y
  | real x, whole b => (compareWhole b x).map Ordering.swap
  | real x, real y =>
    if x < y then some .lt else if y < x then some .gt else if x == y then some .eq else none

/-- Whether one quantity is below another. -/
def lt (a b : Quantity) : Bool :=
  compare a b == some .lt

/-- The sum of a whole number and a quantity; a double sum is rounded. -/
def addTo (n : Int) : Quantity → Quantity
  | whole q => whole (n + q)
  | real x => real (floatOfInt n + x)

/-- A whole number less a quantity; a double difference is rounded. -/
def subFrom (n : Int) : Quantity → Quantity
  | whole q => whole (n - q)
  | real x => real (floatOfInt n - x)

end Quantity

namespace Market

/-- The next planned outcome of a compare-and-swap call on a product, spending it. -/
def nextPlanned (productId : String) : MarketM (Option Bool) := do
  let m ← get
  match m.plans.find? (·.1 == productId) with
  | some (_, b :: rest) =>
    set { m with plans := m.plans.map fun (kv : String × List Bool) =>
      if kv.1 == productId then (kv.1, rest) else kv }
    return some b
  | _ => return none

/-- Replaces the plan of a product's next compare-and-swap calls. -/
def planConflicts (productId : String) (outcomes : List Bool) : MarketM Unit :=
  modify fun m =>
    { m with plans := (m.plans.filter (·.1 != productId)) ++ [(productId, outcomes)] }

/-- Whether a stored version equals a given value, as numbers compare. -/
def versionMatches (version : Int) (expected : Json) : Bool :=
  match Quantity.ofJson? expected with
  | some q => Quantity.compare (.whole version) q == some .eq
  | none => false

/-- Writes a product's stock if its version is still `expected`, moving the version forward;
answers whether it wrote. A planned competing writer makes the call lose without writing, before
anything is checked; then the new stock must be a number that is not negative. -/
def compareAndSwap (productId : String) (expected : Json) (newStock : Json) :
    MarketM Bool := do
  if (← nextPlanned productId) == some false then return false
  let some q := Quantity.ofJson? newStock | fail .wrongType
  if q.lt (.whole 0) then fail (.field "stock" "Stock cannot become negative")
  let current ← getProduct productId
  if !versionMatches current.version expected then return false
  let p ← lift (current.assign "stock" newStock)
  putProduct { p with version := current.version + 1 }
  return true

/-- The number of attempts a ledger makes: the one given, unless it is false (missing, zero or
empty), in which case the settings say. It must be a whole number, `true` counting as one. -/
def attemptsOf (given : Json) : MarketM Nat := do
  let configured := (← currentSettings).stockConflictMaxAttempts
  let chosen := if given.truthy then given else configured
  match chosen with
  | .int n => return n.toNat
  | .bool b => return (if b then 1 else 0)
  | _ => fail .wrongType

/-- Refuses a quantity that is missing or below one; a value that is no number cannot be compared. -/
def checkQuantity (quantity : Json) : MarketM Quantity := do
  if quantity.isNull then fail Cart.quantityTooSmall
  match Quantity.ofJson? quantity with
  | none => fail .wrongType
  | some q => if q.lt (.whole 1) then fail Cart.quantityTooSmall else pure q

/-- The refusal after every attempt lost to another writer. -/
def conflict (productId : String) : Fault :=
  .stockConflict ("Stock for product " ++ productId ++ " changed concurrently, please retry")

/-- Takes a quantity of a product out of stock; answers the product as read before the write. -/
def reserve (productId : String) (quantity : Json) (attempts : Json := .null) : MarketM Product := do
  let q ← checkQuantity quantity
  let n ← attemptsOf attempts
  go q n
where
  go (q : Quantity) : Nat → MarketM Product
    | 0 => fail (conflict productId)
    | k + 1 => do
      let p ← getProduct productId
      if (Quantity.whole p.stock).lt q then
        fail (Product.insufficient p.name quantity.display (toString p.stock))
      if ← compareAndSwap p.id (.int p.version) (Quantity.subFrom p.stock q).toJson then return p
      go q k

/-- Puts a quantity of a product back into stock; answers the product as read before the write,
or nothing for a product that no longer exists. -/
def restore (productId : String) (quantity : Json) (attempts : Json := .null) :
    MarketM (Option Product) := do
  let q ← checkQuantity quantity
  let n ← attemptsOf attempts
  go q n
where
  go (q : Quantity) : Nat → MarketM (Option Product)
    | 0 => fail (conflict productId)
    | k + 1 => do
      match ← findProduct productId with
      | none => return none
      | some p =>
        if ← compareAndSwap p.id (.int p.version) (Quantity.addTo p.stock q).toJson then
          return some p
        go q k

/-- The stock of a product, read fresh. -/
def available (productId : String) : MarketM Int := do
  return (← getProduct productId).stock

end Market

end Bazaar
