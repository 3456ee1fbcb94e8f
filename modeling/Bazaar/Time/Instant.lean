import Bazaar.Text.Unicode

/-!
# Instants

An instant is a count of microseconds since 1970-01-01T00:00:00 UTC, on the proleptic Gregorian
calendar. A date with a time of day names an instant; a time without an offset from UTC is read at
UTC, which is how expiry dates and clocks without a zone are compared.
-/

namespace Bazaar

/-- A moment in time, in microseconds since 1970-01-01T00:00:00 UTC. -/
structure Instant where
  micros : Int
  deriving BEq, Inhabited

namespace Instant

/-- Whether one instant comes strictly before another. -/
def isBefore (a b : Instant) : Bool :=
  a.micros < b.micros

/-- The instant a whole number of seconds after the epoch. -/
def ofSeconds (s : Int) : Instant :=
  ⟨s * 1000000⟩

/-- Whether a year of the proleptic Gregorian calendar has a 29th of February. -/
def isLeapYear (y : Nat) : Bool :=
  y % 4 == 0 && (y % 100 != 0 || y % 400 == 0)

/-- The number of days of a month, or `none` for a month outside 1 to 12. -/
def daysInMonth (y m : Nat) : Option Nat :=
  match m with
  | 1 | 3 | 5 | 7 | 8 | 10 | 12 => some 31
  | 4 | 6 | 9 | 11 => some 30
  | 2 => some (if isLeapYear y then 29 else 28)
  | _ => none

/-- The days from 1970-01-01 to a date of the proleptic Gregorian calendar, counted in eras of
400 years of 146097 days each, with years starting in March so that leap days fall last. -/
def daysFromCivil (y m d : Int) : Int :=
  let y := if m ≤ 2 then y - 1 else y
  let era := y / 400
  let yoe := y - era * 400
  let mp := (m + 9) % 12
  let doy := (153 * mp + 2) / 5 + d - 1
  let doe := yoe * 365 + yoe / 4 - yoe / 100 + doy
  era * 146097 + doe - 719468

/-- The UTF-8 bytes of a text, as naturals; texts of instants are read byte by byte. -/
def textBytes (s : String) : List Nat :=
  (Text.utf8Bytes s).map UInt8.toNat

/-- The value of an ASCII digit byte. -/
def digitByte? (b : Nat) : Option Nat :=
  if 48 ≤ b ∧ b ≤ 57 then some (b - 48) else none

/-- Whether a byte is an ASCII digit. -/
def isDigitByte (b : Nat) : Bool :=
  (digitByte? b).isSome

/-- The value of a run of digit bytes, or `none` when one of them is no digit. -/
def digitsValue? (bs : List Nat) : Option Nat :=
  bs.foldlM (fun acc b => (digitByte? b).map (acc * 10 + ·)) 0

/-- A calendar date. -/
structure Date where
  year : Nat
  month : Nat
  day : Nat

/-- A time of day with an optional offset from UTC in microseconds. -/
structure Clock where
  hour : Nat := 0
  minute : Nat := 0
  second : Nat := 0
  micro : Nat := 0
  offset : Option Int := none

/-- The instant of a date at a time of day; without an offset the time is read at UTC. -/
def ofParts (d : Date) (c : Clock) : Instant :=
  let days := daysFromCivil d.year d.month d.day
  let secs := days * 86400 + (c.hour * 3600 + c.minute * 60 + c.second : Nat)
  ⟨secs * 1000000 + c.micro - c.offset.getD 0⟩

end Instant

end Bazaar
