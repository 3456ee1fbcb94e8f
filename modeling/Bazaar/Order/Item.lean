import Bazaar.Record.Field
import Bazaar.Money

/-!
# Order lines

An order line keeps the product's name, seller and price as they were when the order was placed,
so it stays meaningful after the product changes or goes away. The price is rounded to cents, and
the line's total is the exact product of the price's decimal and the quantity, rounded to cents.
-/

namespace Bazaar

/-- A purchased line of an order. -/
structure OrderItem where
  productId : Option String
  productName : String
  sellerId : Option String
  quantity : Int
  price : Float
  total : Float

namespace OrderItem

/-- Checks the values of an order line's fields. -/
def ofFields (given : Field.Given) : Validation OrderItem :=
  (fun p n s q pr t => OrderItem.mk p n s q pr t)
    <$> Field.optional given "product_id" (Field.identifier 0)
    <*> Field.required given "product_name" (Field.text 1 (some 255))
    <*> Field.optional given "seller_id" (Field.identifier 0)
    <*> Field.required given "quantity" (Field.integer (some 1))
    <*> Field.required given "price_at_purchase" (Field.number (some 0))
    <*> Field.required given "item_total" (Field.number (some 0))

/-- The value of a key that must be present. -/
def member (fields : Field.Given) (key : String) : Except Fault Json :=
  match Field.lookup fields key with
  | some v => .ok v
  | none => .error .missingKey

/-- A quantity as a whole number for exact multiplication; only integers and truth values are. -/
def wholeQuantity : Json → Except Fault Int
  | .int n => .ok n
  | .bool b => .ok (if b then 1 else 0)
  | _ => .error .wrongType

/-- An order line from the data of a purchase: the product's name, the quantity and the price are
required, the product and seller are optional. -/
def ofPurchase (data : Json) : Except Fault OrderItem := do
  let fields ← match data with
    | .obj fs => pure fs
    | _ => throw .missingAttribute
  let productId := (Field.lookup fields "product_id").getD .null
  let name ← member fields "product_name"
  let sellerId := (Field.lookup fields "seller_id").getD .null
  let quantity ← member fields "quantity"
  let priceGiven ← member fields "price_at_purchase"
  let price ← Money.round priceGiven
  let priceDecimal ← Json.asDecimal priceGiven
  let count ← wholeQuantity quantity
  let lineTotal ← Money.arith (Decimal.mul .standard priceDecimal (Decimal.ofInt count))
  let total ← Money.roundDecimal lineTotal
  (ofFields [("product_id", productId), ("product_name", name), ("seller_id", sellerId),
    ("quantity", quantity), ("price_at_purchase", .float price), ("item_total", .float total)]).toExcept

/-- The product of a line as snapshots name it: its identifier, or nothing for an empty one. -/
def productRef (i : OrderItem) : Json :=
  match i.productId with
  | some p => if p.isEmpty then .null else .str p
  | none => .null

/-- The snapshot of a line that events and order views show. -/
def snapshot (i : OrderItem) : Json :=
  .obj [("product_id", i.productRef), ("product_name", .str i.productName),
    ("quantity", .int i.quantity), ("price_at_purchase", .float i.price),
    ("item_total", .float i.total)]

/-- The snapshot of a line with its seller. -/
def snapshotWithSeller (i : OrderItem) : Json :=
  match i.snapshot with
  | .obj fs => .obj (fs ++ [("seller_id", (i.sellerId.map Json.str).getD .null)])
  | v => v

end OrderItem

end Bazaar
