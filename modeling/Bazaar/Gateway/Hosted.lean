import Bazaar.Json.Coerce

/-!
# Hosted checkout at the card processor

A checkout session at the card processor is one request: payment mode, card payments, a single
line item of quantity one priced at the order's amount in minor units and named by the order's
description (or "Marketplace order"), the return addresses, and the order metadata, which is also
attached to the payment intent so that its events name the order. The processor answers with a
session id and its address, or refuses with an error whose text becomes the gateway's error.
-/

namespace Bazaar

namespace Gateway

/-- What the card processor is asked to open a checkout session. -/
def hostedSessionRequest (apiKey amount currency successUrl cancelUrl metadata description : Json) :
    Json :=
  let name := if description.truthy then description else .str "Marketplace order"
  .obj [("api_key", apiKey), ("mode", .str "payment"), ("payment_method_types", .arr [.str "card"]),
    ("line_items", .arr [.obj [
      ("price_data", .obj [("currency", currency), ("unit_amount", amount),
        ("product_data", .obj [("name", name)])]),
      ("quantity", .int 1)]]),
    ("success_url", successUrl), ("cancel_url", cancelUrl), ("metadata", metadata),
    ("payment_intent_data", .obj [("metadata", metadata)])]

/-- The kinds of refusal the card processor raises. -/
def refusalKinds : List String :=
  ["StripeError", "APIConnectionError", "AuthenticationError", "RateLimitError", "APIError"]

/-- The text of a refusal from the card processor: its message, which must be a text; a refusal
with a false message reads `<empty message>`. -/
def refusalText (message : Json) : Except Fault String :=
  if !message.truthy then .ok "<empty message>"
  else
    match message with
    | .str s => .ok s
    | _ => .error .wrongType

end Gateway

end Bazaar
