import Bazaar.Json.Writer
import Bazaar.Number.Literal
import Bazaar.Number.Decimal
import Bazaar.Fault

/-!
# Loose readings of values

Some inputs are read loosely, the way the marketplace's arithmetic and settings read them: any
value has a truth (nothing, `false`, zero and empty texts, lists and objects are false), any value
may be read as an integer (a double is truncated, a text is read as a literal, `true` is one) or as
a double, and the decimal of a value is the decimal of its display text (`null` counting as zero).
-/

namespace Bazaar

namespace Json

/-- The truth of a value. -/
def truthy : Json → Bool
  | null => false
  | bool b => b
  | int n => n != 0
  | float x => x != 0.0
  | str s => !s.isEmpty
  | arr items => !items.isEmpty
  | obj fields => !fields.isEmpty

/-- Truncates a double toward zero; NaN has no integer part and infinities are too large. -/
def truncateFloat (x : Float) : Except Fault Int :=
  match Binary.ofFloat x with
  | .nan => .error .badValue
  | .infinite _ => .error (.overflow "cannot convert float infinity to integer")
  | .finite negative m q =>
    let n : Nat := if q ≥ 0 then m * Nat.pow 2 q.toNat else m / Nat.pow 2 (-q).toNat
    .ok (if negative then -(n : Int) else n)

/-- A value read as an integer. -/
def asInteger : Json → Except Fault Int
  | int n => .ok n
  | bool b => .ok (if b then 1 else 0)
  | float x => truncateFloat x
  | str s =>
    match Literal.int? s with
    | some n => .ok n
    | none => .error .badValue
  | _ => .error .wrongType

/-- The double nearest to an integer; integers beyond the doubles are too large. -/
def floatOfInt (n : Int) : Except Fault Float :=
  let x := Float.ofDecimal (n < 0) n.natAbs 0
  match Binary.ofFloat x with
  | .infinite _ => .error (.overflow "int too large to convert to float")
  | _ => .ok x

/-- A value read as a double. -/
def asFloat : Json → Except Fault Float
  | int n => floatOfInt n
  | bool b => .ok (if b then 1.0 else 0.0)
  | float x => .ok x
  | str s =>
    match Literal.float? s with
    | some x => .ok x
    | none => .error .badValue
  | _ => .error .wrongType

/-- The decimal of a value: of its display text, with `null` read as zero. -/
def asDecimal : Json → Except Fault Decimal
  | null => .ok Decimal.zero
  | int n => .ok (Decimal.ofInt n)
  | v =>
    match Decimal.ofString? v.display with
    | some d => .ok d
    | none => .error .invalidDecimal

end Json

end Bazaar
