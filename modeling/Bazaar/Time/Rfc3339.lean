import Bazaar.Time.Stamp
import Bazaar.Number.Nearest

/-!
# Instants of record fields

A record field reads an instant from a text in one of three ways, tried in turn:

* a date and a time in the form of RFC 3339: `YYYY-MM-DD`, a separator (`T`, `t`, `_` or a
  blank), `hh:mm[:ss[.f…]]` and an optional offset, which is `Z`, `z`, or a sign with `hh:mm` or
  `hhmm` (the sign may also be the minus sign U+2212) of less than a day; the fraction may be
  marked by a comma, and its digits beyond the sixth are dropped;
* a count since the epoch: a whole count is an optional minus sign and digits within the 64-bit
  signed range, and a real count is such a whole part, a point and a fraction that may carry an
  exponent, as in `1.5e3` (the fraction `0.5e3` added to `1`);
* a date alone, `YYYY-MM-DD`, at midnight.

A text that is none of these is refused with the reason it fails as a date alone, except that a
whole count outside the years 0 to 9999 is refused for that. Dates of the year 0 are refused
outright. The text is read as UTF-8 bytes, so a character outside ASCII counts by its encoded
length.
-/

namespace Bazaar

namespace Instant

/-- Why a text is no date. -/
inductive DateFault where
  | tooShort
  | yearCharacter
  | separator
  | monthCharacter
  | monthRange
  | dayCharacter
  | dayRange
  | extraCharacters

/-- The reason a date is refused, as validation messages give it. -/
def DateFault.text : DateFault → String
  | tooShort => "input is too short"
  | yearCharacter => "invalid character in year"
  | separator => "invalid date separator, expected `-`"
  | monthCharacter => "invalid character in month"
  | monthRange => "month value is outside expected range of 1-12"
  | dayCharacter => "invalid character in day"
  | dayRange => "day value is outside expected range"
  | extraCharacters => "unexpected extra characters at the end of the input"

/-- Why the text of a record field names no instant. -/
inductive FieldFault where
  /-- The text fails as a date alone, for this reason. -/
  | date (fault : DateFault)
  /-- The text is a whole count outside the years 0 to 9999. -/
  | stamp (fault : StampFault)
  /-- The text names a date of the year 0. -/
  | yearZero

/-- The value of the `count` digit bytes from position `start`, each failing as `fault` says. -/
def digitsAt (fault : DateFault) (bs : List Nat) (start count : Nat) : Except DateFault Nat :=
  match digitsValue? ((bs.drop start).take count) with
  | some v => .ok v
  | none => .error fault

/-- Reads the date `YYYY-MM-DD` in the first ten bytes, checking its day against its month. -/
def readDate (bs : List Nat) : Except DateFault Date := do
  if bs.length < 10 then throw .tooShort
  let y ← digitsAt .yearCharacter bs 0 4
  if bs[4]? != some 45 then throw .separator
  let m ← digitsAt .monthCharacter bs 5 2
  if bs[7]? != some 45 then throw .separator
  let d ← digitsAt .dayCharacter bs 8 2
  match daysInMonth y m with
  | none => throw .monthRange
  | some n => if d < 1 || d > n then throw .dayRange else pure ⟨y, m, d⟩

/-- Reads two digit bytes. -/
def twoDigits? : List Nat → Option (Nat × List Nat)
  | a :: b :: rest => do
    let x ← digitByte? a
    let y ← digitByte? b
    pure (x * 10 + y, rest)
  | _ => none

/-- Reads the digits of a fraction of a second, at least one: the first six give microseconds. -/
def readFraction (bs : List Nat) : Option (Nat × List Nat) :=
  let ds := bs.takeWhile isDigitByte
  if ds.isEmpty then none
  else
    let kept := ((digitsValue? (ds.take 6)).getD 0)
    some (kept * Nat.pow 10 (6 - min 6 ds.length), bs.drop ds.length)

/-- The sign of an offset: `+`, `-`, or the minus sign U+2212 in its three bytes. -/
def offsetSign? : List Nat → Option (Int × List Nat)
  | 43 :: rest => some (1, rest)
  | 45 :: rest => some (-1, rest)
  | 226 :: 136 :: 146 :: rest => some (-1, rest)
  | _ => none

/-- Reads an offset from UTC in microseconds: `Z`, `z`, or a sign with hours and minutes, with or
without a colon between them, of less than a day. -/
def readOffset (bs : List Nat) : Option (Int × List Nat) :=
  match bs with
  | 90 :: rest | 122 :: rest => some (0, rest)
  | _ => do
    let (sign, rest) ← offsetSign? bs
    let (h, more) ← twoDigits? rest
    let (m, tail) ← match more with
      | 58 :: ms => twoDigits? ms
      | ms => twoDigits? ms
    if m > 59 then none
    let secs : Nat := h * 3600 + m * 60
    if secs ≥ 86400 then none
    pure (sign * secs * 1000000, tail)

/-- Reads a time of day `hh:mm[:ss[.f…]]` with an optional offset, which must end the text. -/
def readClock (bs : List Nat) : Option Clock := do
  let (h, r1) ← twoDigits? bs
  if h > 23 then none
  let r2 ← match r1 with
    | 58 :: r => some r
    | _ => none
  let (m, r3) ← twoDigits? r2
  if m > 59 then none
  let (s, us, r4) ← match r3 with
    | 58 :: r => do
      let (s, r') ← twoDigits? r
      if s > 59 then none
      match r' with
      | c :: more =>
        if c == 46 || c == 44 then do
          let (us, tail) ← readFraction more
          pure (s, us, tail)
        else pure (s, 0, r')
      | [] => pure (s, 0, [])
    | r => pure (0, 0, r)
  match r4 with
  | [] => pure { hour := h, minute := m, second := s, micro := us }
  | _ => do
    let (off, tail) ← readOffset r4
    if tail.isEmpty then pure { hour := h, minute := m, second := s, micro := us, offset := some off }
    else none

/-- Reads a date and a time separated by `T`, `t`, `_` or a blank. -/
def readDateTime (bs : List Nat) : Option (Date × Clock) :=
  match readDate bs, bs.drop 10 with
  | .ok d, sep :: rest =>
    if sep == 84 || sep == 116 || sep == 95 || sep == 32 then (readClock rest).map (d, ·) else none
  | _, _ => none

/-- Reads a whole count: an optional minus sign and at least one digit, within the 64-bit signed
range. -/
def wholeStamp? (bs : List Nat) : Option Int :=
  let (negative, body) := match bs with
    | 45 :: rest => (true, rest)
    | _ => (false, bs)
  if body.isEmpty then none
  else do
    let n ← digitsValue? body
    if n ≥ Nat.pow 2 63 then none else some (if negative then -(n : Int) else n)

/-- Reads the fraction after the point of a real count as the decimal `0.` followed by it: digits,
then an optional exponent mark `e` or `E` with an optional sign and at least one digit. -/
def fractionStamp? (bs : List Nat) : Option Float := do
  let ds := bs.takeWhile isDigitByte
  let v ← digitsValue? ds
  let e : Int ← match bs.drop ds.length with
    | [] => some 0
    | mark :: rest =>
      if mark == 101 || mark == 69 then
        let (negative, body) := match rest with
          | 43 :: more => (false, more)
          | 45 :: more => (true, more)
          | more => (false, more)
        if body.isEmpty then none
        else (digitsValue? body).map fun n => if negative then -(n : Int) else n
      else none
  pure (Float.ofDecimal false v (e - ds.length))

/-- A count since the epoch in a text. -/
inductive Stamp where
  | whole (n : Int)
  | real (x : Float)

/-- Reads a count since the epoch: a whole count, or a whole part, a point and a fraction, which is
subtracted when the text starts with a minus sign and added otherwise. -/
def readStamp (bs : List Nat) : Option Stamp :=
  match wholeStamp? bs with
  | some n => some (.whole n)
  | none =>
    let intPart := bs.takeWhile (· != 46)
    match bs.drop intPart.length with
    | [] => none
    | _ :: frac => do
      let n ← wholeStamp? intPart
      let f ← fractionStamp? frac
      let x := Float.ofDecimal (n < 0) n.natAbs 0
      pure (.real (if intPart.head? == some 45 then x - f else x + f))

/-- Reads a date alone at midnight; a date of the year 0 is refused. -/
def readDateAlone (bs : List Nat) : Except FieldFault Instant :=
  match readDate bs with
  | .error e => .error (.date e)
  | .ok d =>
    if bs.length > 10 then .error (.date .extraCharacters)
    else if d.year == 0 then .error .yearZero
    else .ok (ofParts d {})

/-- Reads the text of a record field that holds an instant. -/
def ofFieldText (s : String) : Except FieldFault Instant :=
  let bs := textBytes s
  match readDateTime bs with
  | some (d, c) => if d.year == 0 then .error .yearZero else .ok (ofParts d c)
  | none =>
    match readStamp bs with
    | some (.whole n) =>
      match ofWholeStamp n with
      | .ok i => .ok i
      | .error f => .error (.stamp f)
    | some (.real x) =>
      match ofRealStamp x with
      | .ok i => .ok i
      | .error _ => readDateAlone bs
    | none => readDateAlone bs

end Instant

end Bazaar
