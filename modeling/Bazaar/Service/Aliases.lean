import Bazaar.Json.Value
import Bazaar.Identifier

/-!
# Aliases of identifiers

Identifiers that the marketplace generates are shown in answers by aliases that do not depend on
how they were drawn: the `n`-th order placed is `<order:n>`, the `n`-th checkout session opened is
`<session:n>`, and every other generated identifier is `<uuid:k>`. Texts of the same shapes are
shown the same way even when a request gave them: a text of the shape of a UUID (groups of 8, 4,
4, 4 and 12 lower-case hexadecimal digits joined by hyphens) shares the `<uuid:k>` numbering, and
one of the shape of a session of the simulated gateway (`cs_test_` and 24 lower-case hexadecimal
digits) is numbered after the sessions opened. These numbers count first appearances as the answer
is walked depth first, object members in the order of their keys and array items in order.
Aliases are found inside texts too, such as messages that quote an identifier; object keys are left
as they are.

In the other direction, a request may name an order or a session by its alias: before a request,
or a step of one, runs, every `<order:n>` and `<session:n>` in its texts that names an existing
one is replaced by its identifier, while an alias that names none stays as it is.
-/

namespace Bazaar

namespace Service

/-- A piece of text that an answer shows by an alias. -/
inductive Aliased where
  /-- A generated identifier. -/
  | generated (g : Generated)
  /-- A text of the shape of a UUID. -/
  | uuidText (s : String)
  /-- A text of the shape of a session of the simulated gateway. -/
  | sessionText (s : String)

/-- Whether a character is a lower-case hexadecimal digit. -/
def isLowerHex (c : Char) : Bool :=
  ('0' ≤ c && c ≤ '9') || ('a' ≤ c && c ≤ 'f')

/-- Whether a text has the shape of a UUID. -/
def isUuidShape (cs : List Char) : Bool :=
  cs.length == 36 && (List.range 36).all fun i =>
    let c := cs.getD i ' '
    if i == 8 || i == 13 || i == 18 || i == 23 then c == '-' else isLowerHex c

/-- Whether a text has the shape of a session of the simulated gateway. -/
def isSessionShape (cs : List Char) : Bool :=
  cs.length == 32 && cs.take 8 == "cs_test_".toList && (cs.drop 8).all isLowerHex

/-- The aliased piece that starts a text, if one does, with the rest of the text. -/
def pieceAt? (cs : List Char) : Option (Aliased × List Char) :=
  match Generated.read? cs with
  | some (g, rest) => some (.generated g, rest)
  | none =>
    if isSessionShape (cs.take 32) then
      some (.sessionText (String.ofList (cs.take 32)), cs.drop 32)
    else if isUuidShape (cs.take 36) then
      some (.uuidText (String.ofList (cs.take 36)), cs.drop 36)
    else none

/-- A text split, from the left, into plain characters and aliased pieces. The fuel is the
length of the text, since every piece takes at least one character. -/
def pieces (cs : List Char) : List (Sum Char Aliased) :=
  go cs cs.length
where
  go : List Char → Nat → List (Sum Char Aliased)
    | [], _ => []
    | c :: rest, 0 => .inl c :: rest.map .inl
    | c :: rest, fuel + 1 =>
      match pieceAt? (c :: rest) with
      | some (p, more) => .inr p :: go more fuel
      | none => .inl c :: go rest fuel

/-- What a `<uuid:k>` alias is numbered by: a generated record or a text. -/
inductive UuidKey where
  | record (n : Nat)
  | text (s : String)
  deriving BEq

/-- The pieces numbered by first appearance, in that order. -/
structure Seen where
  uuids : List UuidKey := []
  sessions : List String := []

/-- Notes an aliased piece, if it is numbered by first appearance and new. -/
def Seen.note (seen : Seen) : Aliased → Seen
  | .generated (.record n) =>
    if seen.uuids.contains (.record n) then seen else { seen with uuids := seen.uuids ++ [.record n] }
  | .uuidText t =>
    if seen.uuids.contains (.text t) then seen else { seen with uuids := seen.uuids ++ [.text t] }
  | .sessionText t =>
    if seen.sessions.contains t then seen else { seen with sessions := seen.sessions ++ [t] }
  | .generated _ => seen

/-- Notes the aliased pieces of a text. -/
def Seen.noteText (seen : Seen) (s : String) : Seen :=
  (pieces s.toList).foldl (fun acc p => match p with
    | .inr a => acc.note a
    | .inl _ => acc) seen

/-- Inserts a member into a list sorted by key. -/
def insertByKey (kv : String × Json) : List (String × Json) → List (String × Json)
  | [] => [kv]
  | first :: rest => if kv.1 < first.1 then kv :: first :: rest else first :: insertByKey kv rest

/-- Members sorted by key. -/
def sortByKey (fields : List (String × Json)) : List (String × Json) :=
  fields.foldr insertByKey []

mutual

/-- A value with the members of every object sorted by key. -/
def sortKeys : Json → Json
  | .arr items => .arr (sortKeysItems items)
  | .obj fields => .obj (sortByKey (sortKeysFields fields))
  | v => v

/-- Array items with their objects' members sorted by key. -/
def sortKeysItems : List Json → List Json
  | [] => []
  | v :: rest => sortKeys v :: sortKeysItems rest

/-- Members whose values have their objects' members sorted by key. -/
def sortKeysFields : List (String × Json) → List (String × Json)
  | [] => []
  | (k, v) :: rest => (k, sortKeys v) :: sortKeysFields rest

end

mutual

/-- Notes the aliased pieces of a value, depth first, members in the order they stand. -/
def noteValue (seen : Seen) : Json → Seen
  | .str s => seen.noteText s
  | .arr items => noteItems seen items
  | .obj fields => noteFields seen fields
  | _ => seen

/-- Notes the aliased pieces of array items, in order. -/
def noteItems (seen : Seen) : List Json → Seen
  | [] => seen
  | v :: rest => noteItems (noteValue seen v) rest

/-- Notes the aliased pieces of member values, in order. -/
def noteFields (seen : Seen) : List (String × Json) → Seen
  | [] => seen
  | (_, v) :: rest => noteFields (noteValue seen v) rest

end

/-- The position, from one, of an item in a list. -/
def rankIn {α : Type} [BEq α] (xs : List α) (x : α) : Nat :=
  match xs.idxOf? x with
  | some i => i + 1
  | none => 0

/-- The alias of a piece, given the pieces seen and the number of sessions opened. -/
def aliasText (seen : Seen) (opened : Nat) : Aliased → String
  | .generated (.order n) => "<order:" ++ toString n ++ ">"
  | .generated (.session n) => "<session:" ++ toString n ++ ">"
  | .generated (.record n) => "<uuid:" ++ toString (rankIn seen.uuids (.record n)) ++ ">"
  | .uuidText t => "<uuid:" ++ toString (rankIn seen.uuids (.text t)) ++ ">"
  | .sessionText t => "<session:" ++ toString (opened + rankIn seen.sessions t) ++ ">"

/-- A text with its aliased pieces replaced. -/
def renameText (seen : Seen) (opened : Nat) (s : String) : String :=
  String.join ((pieces s.toList).map fun p => match p with
    | .inl c => String.singleton c
    | .inr a => aliasText seen opened a)

mutual

/-- A value with the aliased pieces of its texts replaced; keys are kept. -/
def renameValue (seen : Seen) (opened : Nat) : Json → Json
  | .str s => .str (renameText seen opened s)
  | .arr items => .arr (renameItems seen opened items)
  | .obj fields => .obj (renameFields seen opened fields)
  | v => v

/-- Array items with their aliased pieces replaced. -/
def renameItems (seen : Seen) (opened : Nat) : List Json → List Json
  | [] => []
  | v :: rest => renameValue seen opened v :: renameItems seen opened rest

/-- Members with the aliased pieces of their values replaced. -/
def renameFields (seen : Seen) (opened : Nat) : List (String × Json) → List (String × Json)
  | [] => []
  | (k, v) :: rest => (k, renameValue seen opened v) :: renameFields seen opened rest

end

/-- An answer with every identifier shown by its alias, after `opened` sessions were opened; first
appearances are counted with the members of objects in the order of their keys. -/
def withAliases (opened : Nat) (answer : Json) : Json :=
  renameValue (noteValue {} (sortKeys answer)) opened answer

/-- The order or session that an alias at the start of a text names, if it names one of the
`orders` placed or `sessions` opened, with the rest of the text. -/
def namedAt? (orders sessions : Nat) (cs : List Char) : Option (Generated × List Char) :=
  let named (pre : String) (kind : Nat → Generated) (count : Nat) :
      Option (Generated × List Char) :=
    if cs.take pre.length != pre.toList then none
    else
      let rest := cs.drop pre.length
      let ds := rest.takeWhile Char.isDigit
      match rest.drop ds.length, Generated.digitsValue? ds with
      | '>' :: tail, some n => if 1 ≤ n && n ≤ count then some (kind n, tail) else none
      | _, _ => none
  (named "<order:" .order orders).orElse fun _ => named "<session:" .session sessions

/-- A text with each alias of an existing order or session replaced by its identifier. The fuel
is the length of the text. -/
def resolveText (orders sessions : Nat) (s : String) : String :=
  String.ofList (go s.toList s.length)
where
  go : List Char → Nat → List Char
    | [], _ => []
    | cs, 0 => cs
    | c :: rest, fuel + 1 =>
      match namedAt? orders sessions (c :: rest) with
      | some (g, more) => g.token.toList ++ go more fuel
      | none => c :: go rest fuel

mutual

/-- A request value with the aliases in its texts resolved. -/
def resolveValue (orders sessions : Nat) : Json → Json
  | .str s => .str (resolveText orders sessions s)
  | .arr items => .arr (resolveItems orders sessions items)
  | .obj fields => .obj (resolveFields orders sessions fields)
  | v => v

/-- Array items with the aliases in their texts resolved. -/
def resolveItems (orders sessions : Nat) : List Json → List Json
  | [] => []
  | v :: rest => resolveValue orders sessions v :: resolveItems orders sessions rest

/-- Members with the aliases in their values resolved. -/
def resolveFields (orders sessions : Nat) : List (String × Json) → List (String × Json)
  | [] => []
  | (k, v) :: rest => (k, resolveValue orders sessions v) :: resolveFields orders sessions rest

end

end Service

end Bazaar
