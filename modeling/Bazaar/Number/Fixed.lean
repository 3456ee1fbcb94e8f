import Bazaar.Number.Shortest
import Bazaar.Number.Nearest

/-!
# Doubles with a fixed number of places

Messages write some amounts with exactly two places. The places are taken from the exact binary
value of the double, rounded to the nearest multiple of `10^-places`, a tie going to the even
multiple; the sign of a negative value stays even when it rounds to zero (`-0.001` is `-0.00`).
-/

namespace Bazaar

/-- The decimal digits of `n`, at least `width` of them, padded with leading zeros. -/
def padDigits (width n : Nat) : String :=
  let ds := Nat.toDigits 10 n
  String.ofList (List.replicate (width - ds.length) '0' ++ ds)

/-- The multiple of `10^-places` nearest to the positive value `m · 2^q`, as a natural count of
those units; a tie goes to the even count. -/
def fixedUnits (places m : Nat) (q : Int) : Nat :=
  if q ≥ 0 then m * Nat.pow 2 q.toNat * Nat.pow 10 places
  else Nearest.roundHalfEven (m * Nat.pow 10 places) (Nat.pow 2 (-q).toNat)

/-- The text of a double with exactly `places` places after the point; the non-finite values are
`nan`, `inf` and `-inf`. -/
def Float.fixedText (places : Nat) (x : Float) : String :=
  match Binary.ofFloat x with
  | .nan => "nan"
  | .infinite negative => if negative then "-inf" else "inf"
  | .finite negative m q =>
    let units := fixedUnits places m q
    let whole := units / Nat.pow 10 places
    let part := units % Nat.pow 10 places
    let sign := if negative then "-" else ""
    let fraction := if places == 0 then "" else "." ++ padDigits places part
    sign ++ String.ofList (Nat.toDigits 10 whole) ++ fraction

end Bazaar
