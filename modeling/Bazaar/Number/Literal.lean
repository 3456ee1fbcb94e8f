import Bazaar.Number.Nearest
import Bazaar.Text.Blank
import Bazaar.Text.Digit

/-!
# Number literals in text

Settings and amounts may arrive as text. An integer literal is an optional sign and decimal digits;
a float literal adds a point, an exponent, and the words `inf`, `infinity` and `nan` in any case.
Both allow blanks around the literal (the information separators `0x1C` to `0x1F` excepted),
digits of any script, and single underscores between two digits.
-/

namespace Bazaar

namespace Literal

/-- Blanks that may surround a number literal. -/
def isLiteralBlank (c : Char) : Bool :=
  Text.isBlank c && !(0x1C ≤ c.toNat && c.toNat ≤ 0x1F)

/-- The characters of a text without the blanks around it. -/
def trim (s : String) : List Char :=
  ((s.toList.dropWhile isLiteralBlank).reverse.dropWhile isLiteralBlank).reverse

/-- Trims the blanks around a literal and writes every digit as an ASCII digit. -/
def normalize (s : String) : List Char :=
  (trim s).map fun c =>
    match Text.digitValue? c with
    | some v => Char.ofNat ('0'.toNat + v)
    | none => c

/-- Whether every underscore stands between two digits. -/
def underscoresBetweenDigits : List Char → Bool
  | a :: '_' :: b :: rest => a.isDigit && b.isDigit && underscoresBetweenDigits (b :: rest)
  | '_' :: _ => false
  | _ :: rest => underscoresBetweenDigits rest
  | [] => true

/-- Drops the grouping underscores, if they are all placed between digits. -/
def ungroup? (cs : List Char) : Option (List Char) :=
  if underscoresBetweenDigits cs then some (cs.filter (· != '_')) else none

/-- The value of a non-empty list of ASCII digits. -/
def digitsValue? (cs : List Char) : Option Nat :=
  if cs.isEmpty then none
  else cs.foldl (fun acc c => acc.bind fun n =>
    if c.isDigit then some (10 * n + (c.toNat - '0'.toNat)) else none) (some 0)

/-- Splits an optional leading sign. -/
def sign (cs : List Char) : Bool × List Char :=
  match cs with
  | '-' :: rest => (true, rest)
  | '+' :: rest => (false, rest)
  | _ => (false, cs)

/-- Reads an integer literal of at most 4300 digits, the most that are converted. -/
def int? (s : String) : Option Int := do
  let cs ← ungroup? (normalize s)
  let (negative, body) := sign cs
  if body.length > 4300 then none
  let n ← digitsValue? body
  pure (if negative then -(n : Int) else n)

/-- Reads the exponent part after the mark: an optional sign and digits. -/
def exponent? (cs : List Char) : Option Int :=
  let (negative, body) := sign cs
  (digitsValue? body).map fun n => if negative then -(n : Int) else n

/-- Reads a float literal, rounding to the nearest double. -/
def float? (s : String) : Option Float := do
  let cs ← ungroup? (normalize s)
  let (negative, body) := sign cs
  let word := String.ofList (body.map Char.toLower)
  if word == "inf" || word == "infinity" then some (Float.infinity negative)
  else if word == "nan" then some (0.0 / 0.0)
  else
    let mant := body.takeWhile (fun c => c != 'e' && c != 'E')
    let expPart := body.dropWhile (fun c => c != 'e' && c != 'E')
    let intPart := mant.takeWhile (· != '.')
    let afterPoint := mant.dropWhile (· != '.')
    let fracPart := afterPoint.drop 1
    if intPart.isEmpty && fracPart.isEmpty then none
    else do
      let c ← if (intPart ++ fracPart).all Char.isDigit then
          some ((intPart ++ fracPart).foldl (fun n c => 10 * n + (c.toNat - '0'.toNat)) 0)
        else none
      let e ← match expPart with
        | [] => some 0
        | _ :: rest => exponent? rest
      some (Float.ofDecimal negative c (e - fracPart.length))

end Literal

end Bazaar
