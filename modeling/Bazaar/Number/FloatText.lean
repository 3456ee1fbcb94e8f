import Bazaar.Number.Shortest

/-!
# Text of a double

A double is written with its shortest digits (`shortestDigits`). Where the decimal point goes,
whether an integral value keeps `.0`, and how exponents, infinities and NaN are spelled are the
decisions of a format, collected in `FloatFormat`. The program writes doubles in two ways that
differ only in the spelling of the non-finite values: as plain text and inside JSON documents.
-/

namespace Bazaar

/-- The decisions of a text format for doubles. A value whose leading digit has decimal exponent
`d` is written positionally when `positionalFrom ≤ d < positionalBelow`, otherwise as digits, an
exponent mark and a signed exponent of at least `exponentWidth` digits. -/
structure FloatFormat where
  positionalFrom : Int
  positionalBelow : Int
  exponentWidth : Nat
  nanText : String
  infinityText : String

namespace FloatFormat

/-- The text format of doubles in messages and decimal conversions: positional from `1e-4` up to
below `1e16`, an integral value keeps `.0`, exponents have a sign and two digits at least, and the
non-finite values are `nan`, `inf` and `-inf`. -/
def plain : FloatFormat :=
  { positionalFrom := -4, positionalBelow := 16, exponentWidth := 2,
    nanText := "nan", infinityText := "inf" }

/-- The same format inside a JSON document, where the non-finite values are `NaN`, `Infinity` and
`-Infinity`. -/
def json : FloatFormat :=
  { plain with nanText := "NaN", infinityText := "Infinity" }

/-- `n` zeros. -/
def zeros (n : Nat) : String :=
  String.ofList (List.replicate n '0')

/-- Writes the digits `ds` of a positive value whose leading digit has decimal exponent `d`. -/
def layout (fmt : FloatFormat) (ds : List Char) (d : Int) : String :=
  let n := ds.length
  if fmt.positionalFrom ≤ d ∧ d < fmt.positionalBelow then
    if d < 0 then
      "0." ++ zeros ((-d).toNat - 1) ++ String.ofList ds
    else if d.toNat + 1 ≥ n then
      String.ofList ds ++ zeros (d.toNat + 1 - n) ++ ".0"
    else
      String.ofList (ds.take (d.toNat + 1)) ++ "." ++ String.ofList (ds.drop (d.toNat + 1))
  else
    let mantissa :=
      match ds with
      | [] => "0"
      | [c] => String.singleton c
      | c :: rest => String.singleton c ++ "." ++ String.ofList rest
    let expDigits := Nat.toDigits 10 d.natAbs
    let expText := String.ofList (List.replicate (fmt.exponentWidth - expDigits.length) '0' ++ expDigits)
    mantissa ++ "e" ++ (if d < 0 then "-" else "+") ++ expText

/-- The text of a double in this format. -/
def render (fmt : FloatFormat) (x : Float) : String :=
  match Binary.ofFloat x with
  | .nan => fmt.nanText
  | .infinite negative => (if negative then "-" else "") ++ fmt.infinityText
  | .finite negative m q =>
    let sign := if negative then "-" else ""
    if m == 0 then sign ++ "0.0"
    else
      let (c, t) := shortestDigits m q
      let ds := Nat.toDigits 10 c
      sign ++ fmt.layout ds (t + ds.length - 1)

end FloatFormat

/-- The plain text of a double: `0.1`, `5.0`, `1e+16`, `1e-05`, `-0.0`, `nan`, `inf`. -/
def Float.text (x : Float) : String :=
  FloatFormat.plain.render x

end Bazaar
