/-!
# Shortest decimal digits of a double

A finite double is `m · 2^q` for a natural `m` and an integer `q`. The reals that round to it form
an interval around it, whose ends belong to it when `m` is even (ties go to the even significand).
The shortest text of the double is the decimal `c · 10^t` with the fewest digits in that interval,
and of two such the one nearer to the double.

For `n = 1, 2, …, 17` digits the decimal grid is `10^t` with `t = E + 1 - n`, where `10^E` is the
largest power of ten not above the value. If a point of the grid lies in the interval, so does one
of the value's two neighbours on that grid, so only those two are tried. Seventeen digits always
hit. All arithmetic is on naturals: every quantity is scaled by `2^k` so that the double and the
ends of its interval are integers.
-/

namespace Bazaar

/-- A double taken apart: its sign, and for a finite one the natural significand `m` and binary
exponent `q` with magnitude `m · 2^q`. -/
inductive Binary where
  | finite (negative : Bool) (m : Nat) (q : Int)
  | infinite (negative : Bool)
  | nan

namespace Binary

/-- Splits the bits of a double into sign, biased exponent and fraction. -/
def ofFloat (x : Float) : Binary :=
  let bits := x.toBits.toNat
  let negative := bits / Nat.pow 2 63 % 2 == 1
  let e : Nat := bits / Nat.pow 2 52 % 2048
  let f : Nat := bits % Nat.pow 2 52
  if e == 2047 then
    if f == 0 then .infinite negative else .nan
  else if e == 0 then
    .finite negative f (-1074)
  else
    .finite negative (f + Nat.pow 2 52) ((e : Int) - 1075)

end Binary

namespace Shortest

/-- The number of decimal digits of `n`, with `0` counted as one digit. -/
def digitCount (n : Nat) : Nat :=
  (Nat.toDigits 10 n).length

/-- The interval of reals that round to `m · 2^q`, scaled by `2^k`: the value `v`, the ends `lo`
and `hi`, the scale exponent `k`, and whether the ends are included. -/
structure Interval where
  v : Nat
  lo : Nat
  hi : Nat
  k : Nat
  inclusive : Bool

/-- The rounding interval of a positive finite double `m · 2^q`. The gap below is half as wide when
`m` is the smallest significand of a binade above the least one. -/
def interval (m : Nat) (q : Int) : Interval :=
  let k := (2 - q).toNat
  let s := (q + k).toNat
  let v := m * Nat.pow 2 s
  let halfUp := Nat.pow 2 (s - 1)
  let halfDown := if m == Nat.pow 2 52 && q > -1074 then Nat.pow 2 (s - 2) else halfUp
  { v := v, lo := v - halfDown, hi := v + halfUp, k := k, inclusive := m % 2 == 0 }

/-- `⌊log₁₀ (v / 2^k)⌋` for a positive value: the exponent of the leading decimal digit. -/
def leadExponent (v k : Nat) : Int :=
  let den := Nat.pow 2 k
  if v ≥ den then
    (digitCount (v / den) : Int) - 1
  else
    -- the least `j` with `10^j · v ≥ 2^k`
    let j := digitCount den - digitCount v
    if Nat.pow 10 j * v ≥ den then -(j : Int) else -((j : Int) + 1)

/-- The two neighbours of the value on the grid `10^t`, as multiples `c` with their distances to
the value (on a common scale), and the scaled ends of the interval on the same scale. -/
structure Grid where
  below : Nat
  distBelow : Nat
  distAbove : Nat
  unit : Nat
  lo : Nat
  hi : Nat

/-- The grid of spacing `10^t` around the value of an interval. -/
def grid (iv : Interval) (t : Int) : Grid :=
  let up := Nat.pow 10 (-t).toNat
  let unit := Nat.pow 2 iv.k * Nat.pow 10 t.toNat
  let a := iv.v * up
  { below := a / unit, distBelow := a % unit, distAbove := unit - a % unit, unit := unit,
    lo := iv.lo * up, hi := iv.hi * up }

/-- Whether the grid point `c` lies in the interval. -/
def Grid.contains (g : Grid) (inclusive : Bool) (c : Nat) : Bool :=
  let x := c * g.unit
  if inclusive then g.lo ≤ x && x ≤ g.hi else g.lo < x && x < g.hi

/-- The grid point of the interval nearest to the value, if either neighbour lies in it. An exact
tie goes to the even multiple. -/
def Grid.pick (g : Grid) (inclusive : Bool) : Option Nat :=
  let c := g.below
  let inBelow := g.contains inclusive c
  let inAbove := g.distBelow != 0 && g.contains inclusive (c + 1)
  if g.distBelow == 0 then
    if inBelow then some c else none
  else if inBelow && inAbove then
    if g.distBelow < g.distAbove then some c
    else if g.distAbove < g.distBelow then some (c + 1)
    else if c % 2 == 0 then some c else some (c + 1)
  else if inBelow then some c
  else if inAbove then some (c + 1)
  else none

/-- Tries grids of `n, n+1, …` digits, `fuel` of them; seventeen digits always hit. -/
def search (iv : Interval) (lead : Int) : Nat → Nat → Option (Nat × Int)
  | 0, _ => none
  | fuel + 1, n =>
    let t := lead + 1 - n
    match (grid iv t).pick iv.inclusive with
    | some c => some (c, t)
    | none => search iv lead fuel (n + 1)

/-- Removes trailing zeros from `c · 10^t`, keeping the value. -/
def normalize (c : Nat) (t : Int) : Nat × Int :=
  go c t (digitCount c)
where
  go : Nat → Int → Nat → Nat × Int
    | c, t, 0 => (c, t)
    | c, t, fuel + 1 => if c != 0 && c % 10 == 0 then go (c / 10) (t + 1) fuel else (c, t)

end Shortest

/-- The shortest decimal `c · 10^t` that reads back as the positive double `m · 2^q`, the nearest
to it of those with that many digits, without trailing zeros in `c`. -/
def shortestDigits (m : Nat) (q : Int) : Nat × Int :=
  let iv := Shortest.interval m q
  let lead := Shortest.leadExponent iv.v iv.k
  match Shortest.search iv lead 17 1 with
  | some (c, t) => Shortest.normalize c t
  | none => Shortest.normalize m 0

end Bazaar
