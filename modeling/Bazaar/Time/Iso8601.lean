import Bazaar.Time.Instant

/-!
# ISO 8601 texts of clocks

A clock text names an instant by a date in one of the calendar or week forms of ISO 8601, basic or
extended (`YYYY-MM-DD`, `YYYYMMDD`, `YYYY-Www[-D]`, `YYYYWww[D]`; a week date without its day is
its Monday), optionally followed by any one separating character and a time.

Which form the date has is decided by its fifth and sixth characters, and the separator is looked
for where that form ends. A time is `hh[:mm[:ss]]` or the same without colons; a fraction of a
second, marked by a point or a comma, may follow the last field given, and its digits beyond the
sixth are dropped. An offset from UTC starts at the first `Z`, `+` or `-` of the time: `Z` must end
the text, and a sign is followed by an offset written as a time, whose seconds and fraction count
too, of less than a day in size. One character between a time and its offset is passed over.
Texts of fewer than seven characters and dates outside the years 1 to 9999 are refused.

The text is read as its UTF-8 bytes followed by a zero byte, which ends every run of digits.
-/

namespace Bazaar

namespace Instant

/-- The byte at a position, or zero at and past the end. -/
def byteAt (bs : List Nat) (i : Nat) : Nat :=
  bs.getD i 0

/-- Reads `count` digit bytes from a position: their value and the position after them. -/
def digitsFrom (bs : List Nat) (count start : Nat) : Option (Nat × Nat) :=
  (digitsValue? ((List.range count).map fun k => byteAt bs (start + k))).map (·, start + count)

/-- The position of the separator between date and time, told by the shape of the date: a week
date has `W` after its year, and an extended date has `-` after its year. -/
def separatorAt (bs : List Nat) : Option Nat :=
  let len := bs.length
  if len == 7 then some 7
  else if byteAt bs 4 == 45 then
    if byteAt bs 5 == 87 then
      if len < 8 then none
      else if len > 8 && byteAt bs 8 == 45 then
        if len == 9 then none
        else if len > 10 && isDigitByte (byteAt bs 10) then some 8
        else some 10
      else some 8
    else some 10
  else if byteAt bs 4 == 87 then
    let idx := 7 + ((bs.drop 7).takeWhile isDigitByte).length
    if idx < 9 then some idx
    else if idx % 2 == 0 then some 7 else some 8
  else some 8

/-- The days since the epoch of a calendar date of the years 1 to 9999. -/
def calendarDay (y m d : Nat) : Option Int :=
  match daysInMonth y m with
  | some n => if y == 0 || d == 0 || d > n then none else some (daysFromCivil y m d)
  | none => none

/-- The days since the epoch of the day `d` (Monday is 1) of the week `w` of the year `y`. Week 1
is the week of the year's first Thursday; a year has a week 53 when it starts on a Thursday, or
on a Wednesday in a leap year. -/
def weekDay (y w d : Nat) : Option Int :=
  let jan1 := daysFromCivil y 1 1
  -- the weekday of 1 January, Monday being 0; 1970-01-01 was a Thursday
  let wd := (jan1 + 3) % 7
  let longYear := wd == 3 || (wd == 2 && isLeapYear y)
  if y == 0 || w == 0 || w > 53 || (w == 53 && !longYear) || d == 0 || d > 7 then none
  else
    let monday := jan1 - wd + (if wd > 3 then 7 else 0)
    let day := monday + ((w - 1) * 7 + (d - 1) : Nat)
    if day > daysFromCivil 9999 12 31 then none else some day

/-- Reads the date before the separator at `sep`, as days since the epoch. -/
def readIsoDate (bs : List Nat) (sep : Nat) : Option Int := do
  let (y, p0) ← digitsFrom bs 4 0
  let dashed := byteAt bs p0 == 45
  let p := if dashed then p0 + 1 else p0
  if byteAt bs p == 87 then
    let (w, q) ← digitsFrom bs 2 (p + 1)
    let (d, _) ← if q < sep then
        if dashed && byteAt bs q != 45 then none
        else digitsFrom bs 1 (if dashed then q + 1 else q)
      else some (1, q)
    weekDay y w d
  else
    let (m, q) ← digitsFrom bs 2 p
    if dashed && byteAt bs q != 45 then none
    let (d, _) ← digitsFrom bs 2 (if dashed then q + 1 else q)
    calendarDay y m d

/-- How the fields of a time were read. -/
inductive TimeScan where
  /-- The fields ran up to the stop; `trailing` when the character taken last was not the end of
  the text. -/
  | finished (fields : List Nat) (trailing : Bool)
  /-- A fraction of a second starts at a position. -/
  | fraction (fields : List Nat) (pos : Nat)
  /-- The fields are not well formed. -/
  | malformed

/-- Reads up to `k` more two-digit fields of a time from position `p`, stopping at `stop`. The
character after the first field tells whether colons separate the fields; without colons the
character after a field starts the next one. -/
def scanFields (bs : List Nat) (stop : Nat) : Nat → Nat → Bool → List Nat → TimeScan
  | 0, p, _, acc => .fraction acc p
  | k + 1, p, colons, acc =>
    match digitsFrom bs 2 p with
    | none => .malformed
    | some (v, q) =>
      let c := byteAt bs q
      let colons := if acc.isEmpty then c == 58 else colons
      let acc := acc ++ [v]
      if q + 1 ≥ stop then .finished acc (c != 0)
      else if colons && c == 58 then scanFields bs stop k (q + 1) colons acc
      else if c == 46 || c == 44 then .fraction acc (q + 1)
      else if !colons then scanFields bs stop k q colons acc
      else .malformed

/-- The parts of a time of day, or of an offset written as one. -/
structure TimeParts where
  hour : Nat := 0
  minute : Nat := 0
  second : Nat := 0
  micro : Nat := 0

/-- The parts of a time from its fields and fraction. -/
def TimeParts.ofFields (fields : List Nat) (micro : Nat) : TimeParts :=
  { hour := fields.getD 0 0, minute := fields.getD 1 0, second := fields.getD 2 0, micro }

/-- Reads a time from position `start` up to `stop`: its parts, and whether a character other
than the end of the text follows what was read. -/
def readTimeParts (bs : List Nat) (start stop : Nat) : Option (TimeParts × Bool) :=
  match scanFields bs stop 3 start false [] with
  | .malformed => none
  | .finished fields trailing => some (.ofFields fields 0, trailing)
  | .fraction fields p =>
    let n := min (stop - p) 6
    match digitsFrom bs n p with
    | none => none
    | some (v, q) =>
      let q' := q + ((bs.drop q).takeWhile isDigitByte).length
      some (.ofFields fields (v * Nat.pow 10 (6 - n)), byteAt bs q' != 0)

/-- Whether a byte may start an offset: `Z`, `+` or `-`. -/
def startsOffset (b : Nat) : Bool :=
  b == 90 || b == 43 || b == 45

/-- Reads the time after the separator, from `start` to the end of the text: its parts and its
offset from UTC in microseconds, if it has one. -/
def readIsoTime (bs : List Nat) (start : Nat) : Option (TimeParts × Option Int) := do
  let len := bs.length
  if start ≥ len then none
  let tz := start + ((bs.drop start).takeWhile (fun b => !startsOffset b)).length
  let (t, trailing) ← readTimeParts bs start tz
  if tz == len then
    if trailing then none else some (t, none)
  else if byteAt bs tz == 90 then
    if byteAt bs (tz + 1) != 0 then none else some (t, some 0)
  else
    let (o, more) ← readTimeParts bs (tz + 1) len
    if more then none
    let secs : Nat := o.hour * 3600 + o.minute * 60 + o.second
    let size : Nat := if secs == 0 then 0 else secs * 1000000 + o.micro
    if size ≥ 86400000000 then none
    some (t, some (if byteAt bs tz == 45 then -(size : Int) else size))

/-- Reads a clock text. -/
def ofIsoText? (s : String) : Option Instant := do
  if s.length < 7 then none
  let bs := textBytes s
  let sep ← separatorAt bs
  let day ← readIsoDate bs sep
  let (t, off) ← if bs.length > sep then readIsoTime bs (sep + 1) else some ({}, none)
  if t.hour > 23 || t.minute > 59 || t.second > 59 then none
  let secs := day * 86400 + (t.hour * 3600 + t.minute * 60 + t.second : Nat)
  pure ⟨secs * 1000000 + t.micro - off.getD 0⟩

end Instant

end Bazaar
