import Bazaar.Service.Body
import Bazaar.Gateway.Config
import Bazaar.Gateway.Hosted
import Bazaar.Cli.Schema

/-!
# Configuration requests

Settings from an environment, the log level, building a gateway from settings, opening a session
at the card processor, and running the schema tool.
-/

namespace Bazaar

namespace Service

/-- The environment of a request: its variables, each of which must be a text that can be
encoded. -/
def envOf (req : Json) : Except Fault Settings.Env :=
  match req.field? "env" with
  | some (.obj fields) => fields.mapM fun kv =>
    match kv.2 with
    | .str s => if Text.encodable s then .ok (kv.1, s) else .error .unencodable
    | _ => .error .wrongType
  | _ => .ok []

/-- Reads settings from the request's environment. Reading them twice gives the same settings,
which are kept until reset. -/
def settingsAnswer (req : Json) : Json :=
  answerOf do
    let s ← Settings.fromEnv (← envOf req)
    match req.field? "via" with
    | some (.str "get_settings") => return .obj [("settings", s.toJson), ("cached", .bool true)]
    | _ => return .obj [("settings", s.toJson)]

/-- The log level of the request's environment. -/
def logLevelAnswer (req : Json) : Json :=
  answerOf do
    return .obj [("level", .str (logLevel (← envOf req)))]

/-- Settings built from named fields, kept as given; an unknown field is refused. -/
def settingsOfFields (fields : List (String × Json)) : Except Fault Settings :=
  fields.foldlM (fun s (kv : String × Json) => setting s kv.1 kv.2) ({} : Settings)
where
  setting (s : Settings) (k : String) (v : Json) : Except Fault Settings :=
    match k with
    | "payment_gateway" => .ok { s with paymentGateway := v }
    | "stripe_api_key" => .ok { s with stripeApiKey := v }
    | "stripe_webhook_secret" => .ok { s with webhookSecret := v }
    | "gateway_timeout_seconds" => .ok { s with gatewayTimeoutSeconds := v }
    | "webhook_tolerance_seconds" => .ok { s with webhookToleranceSeconds := v }
    | "currency" => .ok { s with currency := v }
    | "shipping_fee" => .ok { s with shippingFee := v }
    | "stock_conflict_max_attempts" => .ok { s with stockConflictMaxAttempts := v }
    | "checkout_success_url" => .ok { s with checkoutSuccessUrl := v }
    | "checkout_cancel_url" => .ok { s with checkoutCancelUrl := v }
    | _ => .error .wrongType

/-- Builds the gateway that settings configure, then signs and verifies with it as asked. -/
def gatewayFactoryAnswer (req : Json) : Json :=
  answerOf do
    let fields := (req.fieldOrNull "settings").fields?.getD []
    let s ← settingsOfFields fields
    let g := Gateway.Config.ofSettings s
    let mut members := [("gateway", g.describe), ("cached", Json.bool true)]
    if g.kind == .simulated then
      match req.field? "sign" with
      | some sign =>
        let body ← requestBody sign
        let stamp := (sign.fieldOrNull "timestamp").display
        members := members ++ [("signed", .str (← Webhook.signedHeader body g.webhookSecret stamp))]
      | none => pure ()
    match req.field? "verify" with
    | some verify =>
      let body ← requestBody verify
      let signer := (verify.field? "sign_secret").getD g.webhookSecret
      let h ← signatureHeader (verify.fieldOrNull "signature") body signer referenceNow
      let verified := match Webhook.verify body h g.webhookSecret g.toleranceSeconds referenceNow with
        | .ok () => Json.bool true
        | .error f => f.toJson
      members := members ++ [("verified", verified)]
    | none => pure ()
    return .obj members

/-- Named arguments: the value of each required name, and of each optional one or its default;
a missing required name or an unknown name is refused. -/
def namedArgs (given : List (String × Json)) (required : List String)
    (optional : List (String × Json)) : Except Fault (String → Json) := do
  for (k, _) in given do
    if !(required.contains k || optional.any (·.1 == k)) then throw .wrongType
  for k in required do
    if (given.lookup k).isNone then throw .wrongType
  return fun k => (given.lookup k).getD ((optional.lookup k).getD .null)

/-- Opens a checkout session at the card processor, whose answer the request scripts. -/
def hostedSessionAnswer (req : Json) : Json :=
  answerOf do
    let gw ← namedArgs ((req.fieldOrNull "gateway").fields?.getD [])
      ["api_key", "webhook_secret"]
      [("timeout_seconds", .float 10.0), ("tolerance_seconds", .int 300)]
    let ss ← namedArgs ((req.fieldOrNull "session").fields?.getD [])
      ["amount_minor_units", "currency", "success_url", "cancel_url", "metadata"]
      [("description", .null)]
    let sent := Gateway.hostedSessionRequest (gw "api_key") (ss "amount_minor_units")
      (ss "currency") (ss "success_url") (ss "cancel_url") (ss "metadata") (ss "description")
    let respond := req.fieldOrNull "respond"
    let session ← match respond.field? "error" with
      | some msg =>
        match (respond.field? "kind").getD (.str "StripeError") with
        | .str "ValueError" => throw .badValue
        | .str k =>
          if Gateway.refusalKinds.contains k then
            pure (Json.obj [("error", .str "GatewayError"),
              ("message", .str (← Gateway.refusalText msg))])
          else throw .missingKey
        | .arr _ | .obj _ => throw .wrongType
        | _ => throw .missingKey
      | none =>
        let sid := (respond.field? "id").getD (.str "cs_live_1")
        let url := (respond.field? "url").getD (.str "https://checkout.stripe.test/cs_live_1")
        pure (Json.obj [("session_id", sid), ("url", url)])
    let description := Json.obj [("type", .str Gateway.Kind.cardProcessor.name),
      ("webhook_secret", gw "webhook_secret"), ("tolerance_seconds", gw "tolerance_seconds"),
      ("api_key", gw "api_key")]
    return .obj [("gateway", description), ("timeout", gw "timeout_seconds"),
      ("max_network_retries", .int 0), ("session", session), ("requests", .arr [sent])]

/-- Runs the schema tool on the request's arguments. -/
def manageAnswer (req : Json) : Json :=
  let args := ((req.fieldOrNull "argv").items?.getD []).map Json.display
  let o := Cli.runSchemaTool args
  .obj [("exit_code", .int o.exitCode), ("stdout", .str o.stdout), ("stderr", .str o.stderr)]

end Service

end Bazaar
