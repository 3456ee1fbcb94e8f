/-!
# JSON values

The program reads requests, webhook bodies and item lists as JSON and answers in JSON. Its value
type keeps two distinctions that the marketplace rules depend on: an integer is not a float (a
quantity of `1` and a price of `1.0` print differently as decimals), and an object keeps its keys
in the order they were written (a payload is signed and re-serialised in that order).
-/

namespace Bazaar

/-- A JSON value. Integers are unbounded; floats are binary doubles; an object is its list of
members in written order, with each key at most once. -/
inductive Json where
  | null
  | bool (b : Bool)
  | int (n : Int)
  | float (x : Float)
  | str (s : String)
  | arr (items : List Json)
  | obj (fields : List (String × Json))
  deriving Inhabited

namespace Json

/-- The member `key` of an object, or `none` for a missing key or a value that is no object. -/
def field? (v : Json) (key : String) : Option Json :=
  match v with
  | obj fields => fields.lookup key
  | _ => none

/-- Whether an object has the member `key`, whatever its value. -/
def hasField (v : Json) (key : String) : Bool :=
  (v.field? key).isSome

/-- The member `key`, with a missing member read as `null`: the reading of an argument that is
passed as "nothing" when absent. -/
def fieldOrNull (v : Json) (key : String) : Json :=
  (v.field? key).getD null

/-- The text of a string value. -/
def string? : Json → Option String
  | str s => some s
  | _ => none

/-- The members of an object, in written order. -/
def fields? : Json → Option (List (String × Json))
  | obj fields => some fields
  | _ => none

/-- The items of an array. -/
def items? : Json → Option (List Json)
  | arr items => some items
  | _ => none

/-- Whether the value is `null`. -/
def isNull : Json → Bool
  | null => true
  | _ => false

/-- Sets the member `key`: an existing member keeps its place and takes the new value, a new one
goes last. -/
def setField (fields : List (String × Json)) (key : String) (value : Json) :
    List (String × Json) :=
  if fields.any (fun kv => kv.1 == key) then
    fields.map (fun kv => if kv.1 == key then (key, value) else kv)
  else
    fields ++ [(key, value)]

mutual

/-- Whether every double in a value is finite, as strict JSON requires. -/
def allFinite : Json → Bool
  | float x => x.isFinite
  | arr items => allFiniteItems items
  | obj fields => allFiniteFields fields
  | _ => true

/-- Whether every double in array items is finite. -/
def allFiniteItems : List Json → Bool
  | [] => true
  | v :: rest => allFinite v && allFiniteItems rest

/-- Whether every double in member values is finite. -/
def allFiniteFields : List (String × Json) → Bool
  | [] => true
  | (_, v) :: rest => allFinite v && allFiniteFields rest

end

end Json

end Bazaar
