import Bazaar.Time.Instant
import Bazaar.Number.Shortest

/-!
# Instants as counts since the epoch

A count since the epoch names an instant in seconds, or in milliseconds when its size is above
`2·10^10`: that many seconds would lie past the year 2603, while that many milliseconds are only
some eight months. Only instants of the years 0 to 9999 can be named this way.

A whole count of milliseconds is split by floor division, so that a negative count still leaves a
fraction of a second that is not negative. A real count is taken apart the same way: its floor
gives the seconds, and the rest, rounded to the nearest microsecond, the fraction; a fraction that
rounds up to a whole second carries into the seconds.
-/

namespace Bazaar

namespace Instant

/-- The first second of the year 0, in seconds since the epoch. -/
def earliestStamp : Int := -62167219200

/-- The last second of the year 9999, in seconds since the epoch. -/
def latestStamp : Int := 253402300799

/-- Counts larger than this in size are milliseconds rather than seconds. -/
def millisecondThreshold : Nat := 20000000000

/-- Why a count since the epoch names no instant. -/
inductive StampFault where
  /-- The count falls before the year 0. -/
  | tooEarly
  /-- The count falls after the year 9999. -/
  | tooLate

/-- The reason a count is refused, as validation messages give it. -/
def StampFault.text : StampFault → String
  | .tooEarly => "dates before 0000 are not supported as unix timestamps"
  | .tooLate => "dates after 9999 are not supported as unix timestamps"

/-- The instant `seconds` seconds and `micros` microseconds after the epoch, when it falls in the
years 0 to 9999; whole seconds among the microseconds carry into the seconds first. -/
def ofStampParts (seconds : Int) (micros : Nat) : Except StampFault Instant :=
  let s := seconds + (micros / 1000000 : Nat)
  if s < earliestStamp then .error .tooEarly
  else if s > latestStamp then .error .tooLate
  else .ok ⟨s * 1000000 + (micros % 1000000 : Nat)⟩

/-- The instant of a whole count since the epoch. -/
def ofWholeStamp (n : Int) : Except StampFault Instant :=
  if n.natAbs ≤ millisecondThreshold then ofStampParts n 0
  else ofStampParts (n / 1000) ((n % 1000).toNat * 1000)

/-- The integer of a double without fraction, held to the range of 64-bit signed integers the way
a machine conversion saturates; NaN converts to zero. -/
def wholeOfFloat (x : Float) : Int :=
  match Binary.ofFloat x with
  | .nan => 0
  | .infinite negative => if negative then -(Nat.pow 2 63 : Int) else (Nat.pow 2 63 : Int) - 1
  | .finite negative m q =>
    let n : Nat := if q ≥ 0 then m * Nat.pow 2 q.toNat else m / Nat.pow 2 (-q).toNat
    let v : Int := if negative then -(n : Int) else n
    max (-(Nat.pow 2 63 : Int)) (min ((Nat.pow 2 63 : Int) - 1) v)

/-- The instant of a real count since the epoch. -/
def ofRealStamp (x : Float) : Except StampFault Instant :=
  let s := if x.abs > 20000000000.0 then x / 1000.0 else x
  let whole := s.floor
  let micros := ((s - whole) * 1000000.0).round
  ofStampParts (wholeOfFloat whole) (wholeOfFloat micros).toNat

end Instant

end Bazaar
