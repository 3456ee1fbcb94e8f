import Bazaar.Service.Money
import Bazaar.Service.Coupon
import Bazaar.Service.OrderMachine
import Bazaar.Service.Webhook
import Bazaar.Service.System
import Bazaar.Json.Document
import Bazaar.Service.Scenario

/-!
# Requests

A request is a JSON object whose `op` names the operation; the answer is a JSON object.
-/

namespace Bazaar

namespace Service

/-- Answers one request other than a scenario. -/
def answerOther (req : Json) : Json :=
  match (req.fieldOrNull "op").display with
  | "money" => moneyAnswer req
  | "decode_event" => decodeEventAnswer req
  | "compute_signature" => computeSignatureAnswer req
  | "verify_signature" => verifySignatureAnswer req
  | "settings_from_env" => settingsAnswer req
  | "log_level" => logLevelAnswer req
  | "gateway_factory" => gatewayFactoryAnswer req
  | "stripe_session" => hostedSessionAnswer req
  | "manage" => manageAnswer req
  | "coupon_evaluate" => couponEvaluateAnswer req
  | "coupon" => couponAnswer req
  | "order_machine" => orderMachineAnswer req
  | _ => Fault.toJson .badValue

/-- Answers one request, with identifiers shown by their aliases. -/
def answer (req : Json) : Json :=
  match (req.fieldOrNull "op").display with
  | "scenario" => scenarioAnswer req
  | _ => withAliases 0 (answerOther req)

/-- Answers one request line: the JSON text of the request, and the compact JSON text of the
answer. -/
def answerLine (line : String) : String :=
  match Json.parseString line with
  | .ok req => Json.render Json.Style.answer (answer req)
  | .error _ => Json.render Json.Style.answer (Fault.toJson .malformedJson)

end Service

end Bazaar
