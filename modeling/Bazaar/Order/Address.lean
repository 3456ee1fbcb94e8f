import Bazaar.Record.Field

/-!
# Addresses

An order keeps a copy of its shipping and billing addresses as they were when it was placed. A
street, city, postal code and country are required; a title, state and phone number are optional.
No other fields are accepted.
-/

namespace Bazaar

/-- A postal address as captured on an order. -/
structure Address where
  title : Option String
  street : String
  city : String
  state : Option String
  zipCode : String
  country : String
  phone : Option String

namespace Address

/-- The names of an address's fields. -/
def fieldNames : List String :=
  ["address_title", "street", "city", "state", "zip_code", "country", "phone_number"]

/-- Checks the values of an address's fields. -/
def ofFields (given : Field.Given) : Validation Address :=
  (fun _ t s c st z co p => Address.mk t s c st z co p)
    <$> Field.closed given fieldNames
    <*> Field.optional given "address_title" (Field.text 0 (some 100))
    <*> Field.required given "street" (Field.text 1 (some 255))
    <*> Field.required given "city" (Field.text 1 (some 100))
    <*> Field.optional given "state" (Field.text 0 (some 100))
    <*> Field.required given "zip_code" (Field.text 1 (some 20))
    <*> Field.required given "country" (Field.text 1 (some 100))
    <*> Field.optional given "phone_number" (Field.text 0 (some 30))

/-- An address from a JSON object of its fields; anything but an object is no address. -/
def ofJson (v : Json) : Except Fault Address :=
  match v with
  | .obj fields => (ofFields fields).toExcept
  | _ => .error .wrongType

/-- An optional text as JSON. -/
def optionalText (o : Option String) : Json :=
  (o.map Json.str).getD .null

/-- The address as a JSON object with all its fields. -/
def toJson (a : Address) : Json :=
  .obj [("address_title", optionalText a.title), ("street", .str a.street),
    ("city", .str a.city), ("state", optionalText a.state), ("zip_code", .str a.zipCode),
    ("country", .str a.country), ("phone_number", optionalText a.phone)]

end Address

end Bazaar
