import Bazaar.Settings

/-!
# Payment gateways

Checkout goes through one of two gateways: the card processor, chosen when the settings name it
exactly `stripe`, or the simulated gateway otherwise. Both verify webhook signatures with the
endpoint's secret and tolerance; only the card processor holds an API key and a network timeout,
and only the simulated gateway signs bodies itself.
-/

namespace Bazaar

namespace Gateway

/-- The two gateways. -/
inductive Kind where
  | cardProcessor
  | simulated
  deriving BEq

/-- The name of a gateway kind, as reported. -/
def Kind.name : Kind → String
  | cardProcessor => "StripeGateway"
  | simulated => "FakeGateway"

/-- A configured gateway, holding its settings as they were given. -/
structure Config where
  kind : Kind
  apiKey : Json
  webhookSecret : Json
  toleranceSeconds : Json
  timeoutSeconds : Json

/-- The gateway that settings configure. -/
def Config.ofSettings (s : Settings) : Config :=
  { kind := match s.paymentGateway with
      | .str "stripe" => .cardProcessor
      | _ => .simulated,
    apiKey := s.stripeApiKey, webhookSecret := s.webhookSecret,
    toleranceSeconds := s.webhookToleranceSeconds, timeoutSeconds := s.gatewayTimeoutSeconds }

/-- The description of a gateway: its kind, secret and tolerance, and the API key of the card
processor. -/
def Config.describe (g : Config) : Json :=
  .obj ([("type", .str g.kind.name), ("webhook_secret", g.webhookSecret),
    ("tolerance_seconds", g.toleranceSeconds)] ++
    (if g.kind == .cardProcessor then [("api_key", g.apiKey)] else []))

end Gateway

end Bazaar
