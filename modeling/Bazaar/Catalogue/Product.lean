import Bazaar.Record.Field

/-!
# Products

A product is on sale when it is active and approved. Its stock is changed only by compare and
swap on its version, a counter that moves forward on every stock write, so that a writer that read
an older version loses instead of overwriting a newer stock.
-/

namespace Bazaar

/-- A product of the catalogue as the marketplace sells it. -/
structure Product where
  id : String
  name : String
  price : Float
  stock : Int
  version : Int
  sellerId : Option String
  active : Bool
  approved : Bool

namespace Product

/-- Checks the values of a product's fields; `id` stands in when none is given. Values given under
other names are ignored. -/
def ofFields (given : Field.Given) (id : String) : Validation Product :=
  (fun i n p s v sel a ap => Product.mk (i.getD id) n p s v sel a ap)
    <$> Field.optional given "id" (Field.identifier 0)
    <*> Field.required given "name" (Field.text 1 (some 255))
    <*> Field.required given "price" (Field.number (some 0))
    <*> Field.withFallback given "stock" 0 (Field.integer (some 0))
    <*> Field.withFallback given "version" 0 (Field.integer none)
    <*> Field.optional given "seller_id" (Field.identifier 0)
    <*> Field.withFallback given "is_active" true Field.flag
    <*> Field.withFallback given "is_approved" true Field.flag

/-- Whether the product can be bought: it is active and approved. -/
def isPurchasable (p : Product) : Bool :=
  p.active && p.approved

/-- Refuses a product that is switched off or not yet approved. -/
def ensurePurchasable (p : Product) : Except Fault Unit :=
  if !p.active then .error (.field "product_id" ("Product " ++ p.name ++ " is not available for sale"))
  else if !p.approved then
    .error (.field "product_id" ("Product " ++ p.name ++ " is not approved for sale"))
  else .ok ()

/-- The refusal of a request for more than the stock. -/
def insufficient (name requested available : String) : Fault :=
  .insufficientStock (Messages.single "stock" ("Insufficient stock for product " ++ name ++
    ": requested " ++ requested ++ ", available " ++ available))

/-- Refuses a quantity above the product's stock. -/
def ensureInStock (p : Product) (quantity : Int) : Except Fault Unit :=
  if quantity > p.stock then .error (insufficient p.name (toString quantity) (toString p.stock))
  else .ok ()

/-- Changes one field of a product by name, checking the value as the field does. -/
def assign (p : Product) (field : String) (v : Json) : Except Fault Product :=
  let check {α : Type} (read : Json → Except String α) : Except Fault α :=
    match read v with
    | .ok a => .ok a
    | .error m => .error (.field field m)
  match field with
  | "name" => return { p with name := ← check (Field.text 1 (some 255)) }
  | "price" => return { p with price := ← check (Field.number (some 0)) }
  | "stock" => return { p with stock := ← check (Field.integer (some 0)) }
  | "version" => return { p with version := ← check (Field.integer none) }
  | "seller_id" =>
    if v.isNull then return { p with sellerId := none }
    else return { p with sellerId := some (← check (Field.identifier 0)) }
  | "is_active" => return { p with active := ← check Field.flag }
  | "is_approved" => return { p with approved := ← check Field.flag }
  | _ => .ok p

end Product

end Bazaar
