import Bazaar.Json.Value

/-!
# Faults

Every way an operation of the marketplace can fail, as a cause. Rule violations carry their
messages per field; refusals of the domain (a missing record, a forbidden action, a lost race for
stock, a gateway or webhook problem) carry one message; the remaining causes are faults of the
input's shape or value, which are named by kind only, except that an overflow or a recursion too
deep also says why.
-/

namespace Bazaar

/-- Messages per field, in the order the fields were checked. -/
abbrev Messages := List (String × List String)

namespace Messages

/-- Adds a message to a field, after the messages it already has. -/
def add (ms : Messages) (field msg : String) : Messages :=
  if ms.any (fun kv => kv.1 == field) then
    ms.map (fun kv => if kv.1 == field then (kv.1, kv.2 ++ [msg]) else kv)
  else ms ++ [(field, [msg])]

/-- The messages of one field only. -/
def single (field msg : String) : Messages :=
  [(field, [msg])]

end Messages

/-- Why an operation failed. -/
inductive Fault where
  /-- A value of the wrong type was used. -/
  | wrongType
  /-- A value of the right type was out of its domain. -/
  | badValue
  /-- A number too large to convert, with the reason. -/
  | overflow (message : String)
  /-- Nesting deeper than can be followed, with the reason. -/
  | recursion (message : String)
  /-- A text that cannot be encoded, such as one holding a lone surrogate. -/
  | unencodable
  /-- A required key was missing from a mapping. -/
  | missingKey
  /-- A value lacked an operation, such as trimming a missing text. -/
  | missingAttribute
  /-- A position past the end of a list. -/
  | indexOutOfRange
  /-- A text that should hold JSON did not. -/
  | malformedJson
  /-- A decimal operation without a defined result. -/
  | invalidDecimal
  /-- Field values broke the rules. -/
  | invalid (messages : Messages)
  /-- A reservation asked for more than the stock. -/
  | insufficientStock (messages : Messages)
  /-- A record that does not exist. -/
  | notFound (message : String)
  /-- An action the requester may not take. -/
  | forbidden (message : String)
  /-- The stock of a product kept changing under a reservation. -/
  | stockConflict (message : String)
  /-- The gateway could not open a checkout session. -/
  | paymentSession (message : String)
  /-- A webhook body whose signature does not check. -/
  | webhookSignature (message : String)
  /-- A webhook body without the shape of an event. -/
  | webhookPayload (message : String)
  /-- The card processor refused a request. -/
  | gateway (message : String)
  deriving Inhabited, DecidableEq

namespace Fault

/-- The rule violation of one field. -/
def field (name msg : String) : Fault :=
  invalid (Messages.single name msg)

/-- The missing record of a kind, by its identifier. -/
def missing (kind ident : String) : Fault :=
  notFound ("`" ++ kind ++ "` object with identifier " ++ ident ++ " does not exist.")

/-- The kind of a fault, as answers name it. -/
def kind : Fault → String
  | wrongType => "TypeError"
  | badValue => "ValueError"
  | overflow _ => "OverflowError"
  | recursion _ => "RecursionError"
  | unencodable => "UnicodeEncodeError"
  | missingKey => "KeyError"
  | missingAttribute => "AttributeError"
  | indexOutOfRange => "IndexError"
  | malformedJson => "JSONDecodeError"
  | invalidDecimal => "InvalidOperation"
  | invalid _ => "ValidationError"
  | insufficientStock _ => "InsufficientStock"
  | notFound _ => "ObjectNotFoundError"
  | forbidden _ => "Forbidden"
  | stockConflict _ => "StockConflict"
  | paymentSession _ => "PaymentSessionError"
  | webhookSignature _ => "WebhookSignatureError"
  | webhookPayload _ => "WebhookPayloadError"
  | gateway _ => "GatewayError"

/-- Messages per field as a JSON object. -/
def messagesJson (ms : Messages) : Json :=
  .obj (ms.map fun kv => (kv.1, .arr (kv.2.map .str)))

/-- The members that describe a fault in an answer: its kind, and its message or messages. -/
def members (f : Fault) : List (String × Json) :=
  let base := [("error", Json.str f.kind)]
  match f with
  | invalid ms | insufficientStock ms => base ++ [("messages", messagesJson ms)]
  | notFound m | forbidden m | stockConflict m | paymentSession m | webhookSignature m
  | webhookPayload m | gateway m | overflow m | recursion m => base ++ [("message", .str m)]
  | _ => base

/-- A fault as an answer object. -/
def toJson (f : Fault) : Json :=
  .obj f.members

end Fault

end Bazaar
