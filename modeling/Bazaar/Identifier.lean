/-!
# Generated identifiers

Orders, checkout sessions and records created without an identifier get a fresh one. A fresh
identifier is a token that no request can contain: a letter for its kind and a number, between two
marks from the private use area. Orders are numbered in the order they are placed, sessions in the
order they are opened, and all other records share one count. Answers show the tokens by aliases,
and requests may name orders and sessions by the same aliases (see `Bazaar.Service.Aliases`).
-/

namespace Bazaar

/-- What a generated identifier names, with its number. -/
inductive Generated where
  /-- The `n`-th order placed. -/
  | order (n : Nat)
  /-- The `n`-th checkout session opened. -/
  | session (n : Nat)
  /-- The `n`-th other record created without an identifier. -/
  | record (n : Nat)
  deriving BEq

namespace Generated

/-- The mark around a generated identifier. -/
def mark : Char := Char.ofNat 0xF8FF

/-- The letter of a kind. -/
def letter : Generated → Char
  | order _ => 'o'
  | session _ => 's'
  | record _ => 'r'

/-- The number of a generated identifier. -/
def number : Generated → Nat
  | order n | session n | record n => n

/-- The identifier as it is stored. -/
def token (g : Generated) : String :=
  String.ofList ([mark, g.letter] ++ (toString g.number).toList ++ [mark])

/-- The generated identifier of a kind letter and a number. -/
def ofLetter? (l : Char) (n : Nat) : Option Generated :=
  if l == 'o' then some (order n)
  else if l == 's' then some (session n)
  else if l == 'r' then some (record n)
  else none

/-- The value of a non-empty list of ASCII digits. -/
def digitsValue? (ds : List Char) : Option Nat :=
  if ds.isEmpty || !ds.all Char.isDigit then none
  else some (ds.foldl (fun acc d => acc * 10 + (d.toNat - '0'.toNat)) 0)

/-- Reads a generated identifier at the start of a text; returns it with the rest of the text. -/
def read? : List Char → Option (Generated × List Char)
  | m :: l :: rest =>
    if m != mark then none
    else
      let ds := rest.takeWhile Char.isDigit
      match rest.drop ds.length with
      | m' :: tail =>
        if m' != mark then none
        else do
          let n ← digitsValue? ds
          let g ← ofLetter? l n
          pure (g, tail)
      | [] => none
  | _ => none

end Generated

end Bazaar
