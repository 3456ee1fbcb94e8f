import Bazaar.Record.Validation
import Bazaar.Json.Coerce
import Bazaar.Time.Rfc3339

/-!
# Fields of records

Records of the marketplace (products, coupons, orders, commands, addresses) are built from named
values. Each field reads its value by its kind, leniently: an identifier may be any value, read as
its display text, a number or a whole number may be a numeric text, a truth value as `0`, `1`, `"yes"` or
`"off"`, an instant as an ISO 8601 text or as seconds since the epoch. A value that cannot be read
is refused with a message that names the expected kind, and bounds on lengths and numbers are
checked after reading.

A field is either required (leaving it out is refused with `is required`), has a fallback that
stands in when it is left out, or is optional; only an optional field accepts `null`.
-/

namespace Bazaar

namespace Field

/-- The values given for a record's fields, by name. -/
abbrev Given := List (String × Json)

/-- The value given for a field, if any. -/
def lookup (given : Given) (name : String) : Option Json :=
  (given.find? (fun kv => kv.1 == name)).map (·.2)

/-- The message for a number below its lower bound. -/
def belowBound (bound : Int) : String :=
  "Input should be greater than or equal to " ++ toString bound

/-- Reads text with at least `minLength` and at most `maxLength` characters. -/
def text (minLength : Nat) (maxLength : Option Nat) : Json → Except String String
  | .str s =>
    if s.length < minLength then
      .error ("String should have at least " ++ toString minLength ++
        (if minLength == 1 then " character" else " characters"))
    else
      match maxLength with
      | some n =>
        if s.length > n then .error ("String should have at most " ++ toString n ++ " characters")
        else .ok s
      | none => .ok s
  | _ => .error "Input should be a valid string"

/-- Reads an identifier: any value but `null`, as its display text. -/
def identifier (minLength : Nat) : Json → Except String String
  | .null => .error "Input should be a valid string"
  | v => text minLength none (.str v.display)

/-- Reads one of a fixed list of texts. -/
def choice (options : List String) : Json → Except String String
  | .str s => if options.contains s then .ok s else .error (choiceMessage options)
  | _ => .error (choiceMessage options)
where
  choiceMessage (options : List String) : String :=
    let quoted := options.map (fun o => "'" ++ o ++ "'")
    let listed := match quoted.reverse with
      | last :: before@(_ :: _) => ", ".intercalate before.reverse ++ " or " ++ last
      | _ => String.join quoted
    "Input should be " ++ listed

/-- The text of a number as record fields read it: without the blanks around it, in ASCII only, and
with the underscores that group digits dropped; `none` when a character is not ASCII or an underscore
does not stand between two digits. -/
def numeralOf? (s : String) : Option (List Char) :=
  let cs := Literal.trim s
  if cs.all (·.toNat < 128) then Literal.ungroup? cs else none

/-- Reads a whole number from text: an optional sign and digits, optionally followed by a point and
one or more zeros. -/
def integerOfText? (s : String) : Option Int := do
  let cs ← numeralOf? s
  let (neg, body) := Literal.sign cs
  let whole := body.takeWhile (· != '.')
  let frac := body.drop whole.length
  let fracOk := match frac with
    | [] => true
    | _ :: zs => !zs.isEmpty && zs.all (· == '0')
  if whole.isEmpty || !whole.all Char.isDigit || !fracOk then none
  else
    let n := whole.foldl (fun acc c => acc * 10 + (c.toNat - '0'.toNat)) 0
    some (if neg then -(n : Int) else n)

/-- Reads a whole number at least `least`: an integer, a double without fraction below `2 ^ 63`
in size, `true` as one, or a numeric text. -/
def integer (least : Option Int) : Json → Except String Int
  | v => do
    let n ← read v
    match least with
    | some b => if n < b then .error (belowBound b) else .ok n
    | none => .ok n
where
  read : Json → Except String Int
    | .int n => .ok n
    | .bool b => .ok (if b then 1 else 0)
    | .float x =>
      match Binary.ofFloat x with
      | .nan | .infinite _ => .error "Input should be a finite number"
      | .finite negative m q =>
        if q < 0 && m % Nat.pow 2 (-q).toNat != 0 then
          .error "Input should be a valid integer, got a number with a fractional part"
        else
          let n : Nat := if q ≥ 0 then m * Nat.pow 2 q.toNat else m / Nat.pow 2 (-q).toNat
          if n ≥ Nat.pow 2 63 then
            .error "Unable to parse input string as an integer, exceeded maximum size"
          else .ok (if negative then -(n : Int) else n)
    | .str s =>
      match integerOfText? s with
      | some n => .ok n
      | none => .error "Input should be a valid integer, unable to parse string as an integer"
    | _ => .error "Input should be a valid integer"

/-- Reads a double at least `least`: a number, `true` as one, or a numeric text. NaN is below every
bound. -/
def number (least : Option Int) : Json → Except String Float
  | v => do
    let x ← read v
    match least with
    | some b =>
      if x ≥ Float.ofInt b then .ok x else .error (belowBound b)
    | none => .ok x
where
  read : Json → Except String Float
    | .int n => .ok (Float.ofDecimal (n < 0) n.natAbs 0)
    | .bool b => .ok (if b then 1.0 else 0.0)
    | .float x => .ok x
    | .str s =>
      match (numeralOf? s).bind (fun cs => Literal.float? (String.ofList cs)) with
      | some x => .ok x
      | none => .error "Input should be a valid number, unable to parse string as a number"
    | _ => .error "Input should be a valid number"

/-- The texts read as true and as false, in lower case. -/
def trueWords : List String := ["1", "on", "t", "true", "y", "yes"]

/-- The texts read as false, in lower case. -/
def falseWords : List String := ["0", "off", "f", "false", "n", "no"]

/-- Reads a truth value: a boolean, `0` or `1`, or a word such as `yes` or `off`. Any other whole
number cannot be interpreted; a number with a fraction is no truth value at all. -/
def flag : Json → Except String Bool
  | .bool b => .ok b
  | .int n =>
    if n == 0 then .ok false else if n == 1 then .ok true
    else .error "Input should be a valid boolean, unable to interpret input"
  | .float x =>
    if x == 0.0 then .ok false else if x == 1.0 then .ok true
    else if x == x.floor && x.abs < 9223372036854775808.0 then
      .error "Input should be a valid boolean, unable to interpret input"
    else .error "Input should be a valid boolean"
  | .str s =>
    let w := String.ofList (s.toList.map Char.toLower)
    if trueWords.contains w then .ok true
    else if falseWords.contains w then .ok false
    else .error "Input should be a valid boolean, unable to interpret input"
  | _ => .error "Input should be a valid boolean"

/-- Reads an instant: a text of a date and a time, of a count since the epoch or of a date alone,
or a count since the epoch. A whole count beyond the 64-bit signed range is read as a real one. -/
def instant : Json → Except String Instant
  | .str s =>
    match Instant.ofFieldText s with
    | .ok i => .ok i
    | .error (.date e) => .error ("Input should be a valid datetime or date, " ++ e.text)
    | .error (.stamp e) => .error ("Input should be a valid datetime or date, " ++ e.text)
    | .error .yearZero => .error "Input should be a valid datetime, year 0 is out of range"
  | .int n =>
    let counted := if n.natAbs < Nat.pow 2 63 then Instant.ofWholeStamp n
      else Instant.ofRealStamp (Float.ofDecimal (n < 0) n.natAbs 0)
    match counted with
    | .ok i => .ok i
    | .error e => .error ("Input should be a valid datetime, " ++ e.text)
  | .float x =>
    match Instant.ofRealStamp x with
    | .ok i => .ok i
    | .error e => .error ("Input should be a valid datetime, " ++ e.text)
  | _ => .error "Input should be a valid datetime"

/-- A field that must be given. -/
def required {α : Type} (given : Given) (name : String) (read : Json → Except String α) :
    Validation α :=
  match lookup given name with
  | none => .reject name "is required"
  | some v =>
    match read v with
    | .ok a => .ok a
    | .error m => .reject name m

/-- A field with a fallback value for when it is left out. -/
def withFallback {α : Type} (given : Given) (name : String) (fallback : α)
    (read : Json → Except String α) : Validation α :=
  match lookup given name with
  | none => .ok fallback
  | some v =>
    match read v with
    | .ok a => .ok a
    | .error m => .reject name m

/-- A field that may be left out or given as `null`. -/
def optional {α : Type} (given : Given) (name : String) (read : Json → Except String α) :
    Validation (Option α) :=
  match lookup given name with
  | none | some .null => .ok none
  | some v =>
    match read v with
    | .ok a => .ok (some a)
    | .error m => .reject name m

/-- Refuses every given name that is not a field of the record. -/
def closed (given : Given) (names : List String) : Validation Unit :=
  match given.filter (fun kv => !names.contains kv.1) with
  | [] => .ok ()
  | extra => .failed (extra.map (fun kv => (kv.1, ["Extra inputs are not permitted"])))

end Field

end Bazaar
