import Bazaar.Record.Field

/-!
# Reading request forms

The web interface reads the parts of a request (headers, query parameters and the JSON body)
against declared shapes before any handler runs. Every part is read, and every problem found is
reported together: each with a kind, the location of the offending value (the part, then the field
names and list positions leading to it), a message, the value itself and, for bounds, the bound.

Values are read leniently, as the records of the marketplace are: a whole number may come as a
numeric text or as a double without fraction, and a double as a numeric text.
-/

namespace Bazaar

namespace Http

/-- A problem with one value of a request. -/
structure Problem where
  kind : String
  loc : List Json
  message : String
  input : Json
  context : List (String × Json) := []

namespace Problem

/-- A problem as the answer lists it. -/
def toJson (p : Problem) : Json :=
  .obj ([("type", .str p.kind), ("loc", .arr p.loc), ("msg", .str p.message),
    ("input", p.input)] ++ (if p.context.isEmpty then [] else [("ctx", .obj p.context)]))

/-- A value that is missing. -/
def missing (loc : List Json) (input : Json) : Problem :=
  ⟨"missing", loc, "Field required", input, []⟩

end Problem

/-- The outcome of reading: the value read, or every problem found. -/
inductive Checked (α : Type) where
  | ok (a : α)
  | failed (problems : List Problem)

namespace Checked

/-- Applies a function to the value read. -/
def map {α β : Type} (f : α → β) : Checked α → Checked β
  | ok a => ok (f a)
  | failed ps => failed ps

/-- Combines two readings, keeping the problems of both. -/
def apply {α β : Type} : Checked (α → β) → Checked α → Checked β
  | ok f, ok a => ok (f a)
  | ok _, failed ps => failed ps
  | failed ps, ok _ => failed ps
  | failed ps, failed qs => failed (ps ++ qs)

instance : Applicative Checked where
  pure := ok
  map := map
  seq f a := apply f (a ())

/-- Reads further from a value read; problems stop the reading. -/
def andThen {α β : Type} (c : Checked α) (f : α → Checked β) : Checked β :=
  match c with
  | ok a => f a
  | failed ps => failed ps

end Checked

/-- What is wrong with a single value: its kind, message and context. -/
structure Issue where
  kind : String
  message : String
  context : List (String × Json) := []

/-- A shape of a value: read at a location, it gives a value or problems. -/
abbrev Form (α : Type) := List Json → Json → Checked α

namespace Form

/-- The shape of a single value read by `read`. -/
def ofReader {α : Type} (read : Json → Except Issue α) : Form α := fun loc v =>
  match read v with
  | .ok a => .ok a
  | .error i => .failed [⟨i.kind, loc, i.message, v, i.context⟩]

/-- A text. -/
def text : Form String :=
  ofReader fun
    | .str s => .ok s
    | _ => .error ⟨"string_type", "Input should be a valid string", []⟩

/-- The plural ending of a count of characters. -/
def characters (n : Nat) : String :=
  if n == 1 then " character" else " characters"

/-- A text of bounded length. -/
def boundedText (minLength maxLength : Nat) : Form String := fun loc v =>
  (text loc v).andThen fun s =>
    if s.length < minLength then
      .failed [⟨"string_too_short", loc, "String should have at least " ++ toString minLength ++
        characters minLength, v, [("min_length", .int minLength)]⟩]
    else if s.length > maxLength then
      .failed [⟨"string_too_long", loc, "String should have at most " ++ toString maxLength ++
        characters maxLength, v, [("max_length", .int maxLength)]⟩]
    else .ok s

/-- The kind of a failure to read a whole number, from its message. -/
def wholeIssue (message : String) : Issue :=
  if message == "Input should be a valid integer, unable to parse string as an integer" then
    ⟨"int_parsing", message, []⟩
  else if message == "Input should be a valid integer, got a number with a fractional part" then
    ⟨"int_from_float", message, []⟩
  else if message == "Input should be a finite number" then ⟨"finite_number", message, []⟩
  else if message == "Unable to parse input string as an integer, exceeded maximum size" then
    ⟨"int_parsing_size", message, []⟩
  else ⟨"int_type", message, []⟩

/-- The problem of a whole number below `least`. -/
def belowLeast (loc : List Json) (v : Json) (least : Int) : Problem :=
  ⟨"greater_than_equal", loc, "Input should be greater than or equal to " ++ toString least, v,
    [("ge", .int least)]⟩

/-- The problem of a whole number above `most`. -/
def aboveMost (loc : List Json) (v : Json) (most : Int) : Problem :=
  ⟨"less_than_equal", loc, "Input should be less than or equal to " ++ toString most, v,
    [("le", .int most)]⟩

/-- A whole number within optional bounds. -/
def wholeNumber (least most : Option Int) : Form Int := fun loc v =>
  match Field.integer none v with
  | .error m =>
    let i := wholeIssue m
    .failed [⟨i.kind, loc, i.message, v, i.context⟩]
  | .ok n =>
    if least.any (n < ·) then .failed [belowLeast loc v (least.getD 0)]
    else if most.any (n > ·) then .failed [aboveMost loc v (most.getD 0)]
    else .ok n

/-- The kind of a failure to read a double, from its message. -/
def realIssue (message : String) : Issue :=
  if message == "Input should be a valid number, unable to parse string as a number" then
    ⟨"float_parsing", message, []⟩
  else ⟨"float_type", message, []⟩

/-- A double at least a whole bound, if any. -/
def realNumber (least : Option Int) : Form Float := fun loc v =>
  match Field.number none v with
  | .error m =>
    let i := realIssue m
    .failed [⟨i.kind, loc, i.message, v, i.context⟩]
  | .ok x =>
    match least with
    | some b =>
      if x ≥ Float.ofInt b then .ok x
      else
        .failed [⟨"greater_than_equal", loc, "Input should be greater than or equal to " ++
          toString b, v, [("ge", .float (Float.ofInt b))]⟩]
    | none => .ok x

/-- A shape that also accepts `null`, read as nothing. -/
def orNull {α : Type} (f : Form α) : Form (Option α) := fun loc v =>
  match v with
  | .null => .ok none
  | _ => (f loc v).map some

/-- The items of a list, each read by `f` at its position. -/
def items {α : Type} (f : Form α) (loc : List Json) : Nat → List Json → Checked (List α)
  | _, [] => .ok []
  | i, v :: rest => (· :: ·) <$> f (loc ++ [.int i]) v <*> items f loc (i + 1) rest

/-- A list of at least `minLength` items, each read by `f`. -/
def list {α : Type} (f : Form α) (minLength : Nat) : Form (List α) := fun loc v =>
  match v with
  | .arr xs =>
    (items f loc 0 xs).andThen fun as =>
      if xs.length < minLength then
        .failed [⟨"too_short", loc, "List should have at least " ++ toString minLength ++
          (if minLength == 1 then " item" else " items") ++ " after validation, not " ++
          toString xs.length, v, [("field_type", .str "List"), ("min_length", .int minLength),
          ("actual_length", .int xs.length)]⟩]
      else .ok as
  | _ => .failed [⟨"list_type", loc, "Input should be a valid list", v, []⟩]

/-- An object whose members are read by `read`, given the members, the object and its
location. -/
def object {α : Type} (read : List (String × Json) → Json → List Json → Checked α) : Form α :=
  fun loc v =>
    match v with
    | .obj fields => read fields v loc
    | _ => .failed [⟨"model_attributes_type", loc,
        "Input should be a valid dictionary or object to extract fields from", v, []⟩]

/-- A member that must be present. -/
def member {α : Type} (fields : List (String × Json)) (whole : Json) (loc : List Json)
    (name : String) (f : Form α) : Checked α :=
  match fields.lookup name with
  | some v => f (loc ++ [.str name]) v
  | none => .failed [Problem.missing (loc ++ [.str name]) whole]

/-- A member with a default for when it is absent. -/
def memberOr {α : Type} (fields : List (String × Json)) (loc : List Json) (name : String)
    (fallback : α) (f : Form α) : Checked α :=
  match fields.lookup name with
  | some v => f (loc ++ [.str name]) v
  | none => .ok fallback

end Form

end Http

end Bazaar
