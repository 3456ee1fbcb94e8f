import Bazaar.Json.Coerce
import Bazaar.Text.Case

/-!
# Settings

The knobs of the application: which payment gateway to use and its credentials, how long a
webhook signature stays valid, the store's currency and shipping fee, how many times a stock
reservation retries, and where checkout returns to. Settings are read from environment variables,
each falling back to its default when unset; a set variable is used even when empty. The log
level follows the environment's name unless set directly.
-/

namespace Bazaar

/-- The application settings. Each holds its value as it was given: settings read from an
environment are parsed there, while settings given directly are kept as they are and only fail
where they are used. -/
structure Settings where
  paymentGateway : Json := .str "fake"
  stripeApiKey : Json := .str ""
  webhookSecret : Json := .str "whsec_test_secret"
  gatewayTimeoutSeconds : Json := .float 10.0
  webhookToleranceSeconds : Json := .int 300
  currency : Json := .str "usd"
  shippingFee : Json := .float 0.0
  stockConflictMaxAttempts : Json := .int 3
  checkoutSuccessUrl : Json :=
    .str "http://localhost:3000/checkout/success?session_id=\x7bCHECKOUT_SESSION_ID\x7d"
  checkoutCancelUrl : Json := .str "http://localhost:3000/checkout/cancel"

namespace Settings

/-- An environment: the variables that are set, with their values. -/
abbrev Env := List (String × String)

/-- A variable's value, or the default text when it is unset. -/
def lookupOr (env : Env) (name default : String) : String :=
  (env.lookup name).getD default

/-- A double from a variable: the default when unset, else the literal it holds. -/
def floatVar (env : Env) (name : String) (default : Float) : Except Fault Float :=
  match env.lookup name with
  | none => .ok default
  | some s =>
    match Literal.float? s with
    | some x => .ok x
    | none => .error .badValue

/-- An integer from a variable: the default when unset, else the literal it holds. -/
def intVar (env : Env) (name : String) (default : Int) : Except Fault Int :=
  match env.lookup name with
  | none => .ok default
  | some s =>
    match Literal.int? s with
    | some n => .ok n
    | none => .error .badValue

/-- Settings read from an environment. Gateway names and currencies are lower-cased, and at least
one reservation attempt is made. -/
def fromEnv (env : Env) : Except Fault Settings := do
  let timeout ← floatVar env "GATEWAY_TIMEOUT_SECONDS" 10.0
  let tolerance ← intVar env "WEBHOOK_TOLERANCE_SECONDS" 300
  let fee ← floatVar env "MARKETPLACE_SHIPPING_FEE" 0.0
  let attempts ← intVar env "STOCK_CONFLICT_MAX_ATTEMPTS" 3
  return {
    paymentGateway := .str (Text.toLower (lookupOr env "PAYMENT_GATEWAY" "fake"))
    stripeApiKey := .str (lookupOr env "STRIPE_API_KEY" "")
    webhookSecret := .str (lookupOr env "STRIPE_WEBHOOK_SECRET" "whsec_test_secret")
    gatewayTimeoutSeconds := .float timeout
    webhookToleranceSeconds := .int tolerance
    currency := .str (Text.toLower (lookupOr env "MARKETPLACE_CURRENCY" "usd"))
    shippingFee := .float fee
    stockConflictMaxAttempts := .int (max 1 attempts)
    checkoutSuccessUrl := .str (lookupOr env "CHECKOUT_SUCCESS_URL"
      "http://localhost:3000/checkout/success?session_id=\x7bCHECKOUT_SESSION_ID\x7d")
    checkoutCancelUrl := .str (lookupOr env "CHECKOUT_CANCEL_URL"
      "http://localhost:3000/checkout/cancel") }

/-- The settings as a JSON object. -/
def toJson (s : Settings) : Json :=
  .obj [("payment_gateway", s.paymentGateway), ("stripe_api_key", s.stripeApiKey),
    ("stripe_webhook_secret", s.webhookSecret),
    ("gateway_timeout_seconds", s.gatewayTimeoutSeconds),
    ("webhook_tolerance_seconds", s.webhookToleranceSeconds), ("currency", s.currency),
    ("shipping_fee", s.shippingFee), ("stock_conflict_max_attempts", s.stockConflictMaxAttempts),
    ("checkout_success_url", s.checkoutSuccessUrl),
    ("checkout_cancel_url", s.checkoutCancelUrl)]

end Settings

/-- The log level of an environment: `LOG_LEVEL` if set (even empty), else by the environment's
name (`ENVIRONMENT`, else `PROTEAN_ENV`, else development; the first non-empty one): production and
staging log at INFO, development at DEBUG, test at WARNING, anything else at INFO. Upper-cased. -/
def logLevel (env : Settings.Env) : String :=
  let name :=
    match env.lookup "ENVIRONMENT" with
    | some e => if e.isEmpty then none else some e
    | none => none
  let name := name.orElse fun _ =>
    match env.lookup "PROTEAN_ENV" with
    | some e => if e.isEmpty then none else some e
    | none => none
  let envName := Text.toLower (name.getD "development")
  let byEnv :=
    if envName == "production" || envName == "staging" then "INFO"
    else if envName == "development" then "DEBUG"
    else if envName == "test" then "WARNING"
    else "INFO"
  Text.toUpper ((env.lookup "LOG_LEVEL").getD byEnv)

end Bazaar
