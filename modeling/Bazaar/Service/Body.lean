import Bazaar.Json.Writer
import Bazaar.Json.Reader
import Bazaar.Json.Coerce
import Bazaar.Webhook.Signature
import Bazaar.Text.Unicode

/-!
# Request bodies and signature headers

A request gives a raw body in one of three ways: `payload_hex` as hexadecimal bytes, `event` as a
JSON value written in the standard style, or `payload` as text sent in UTF-8; the first present
wins in that order. A signature header is given by a specification: `"valid"` signs the body now
with the secret, `"none"` is the empty header, an object shifts the time, changes the secret or
adds text around the header, and any other text is the header itself.

Requests are answered at a fixed reference instant, `referenceNow` seconds after the epoch.
-/

namespace Bazaar

namespace Service

/-- Answers with a value or a fault. -/
def answerOf (r : Except Fault Json) : Json :=
  match r with
  | .ok v => v
  | .error f => f.toJson

/-- The instant at which requests are answered, in whole seconds. -/
def referenceNow : Int := 1794528000

/-- Whether a character is an ASCII blank, which may stand between hexadecimal pairs. -/
def isHexBlank (c : Char) : Bool :=
  c == ' ' || c == '\t' || c == '\n' || c == '\r' || c == '\x0b' || c == '\x0c'

/-- Bytes written as hexadecimal pairs, with ASCII blanks allowed before each pair and at the
end but not inside a pair; a character outside ASCII is refused. -/
def hexBytes? (s : String) : Option (List UInt8) :=
  if s.toList.any (fun c => c.toNat ≥ 128) then none else go s.toList
where
  go : List Char → Option (List UInt8)
    | [] => some []
    | c :: rest =>
      if isHexBlank c then go rest
      else
        match rest with
        | d :: more => do
          let hi ← Json.hexValue? c
          let lo ← Json.hexValue? d
          let tail ← go more
          pure (UInt8.ofNat (hi * 16 + lo) :: tail)
        | [] => none

/-- The raw body of a request. A request without any of the three names lacks its `payload`, and
a payload must be a text that can be encoded. -/
def requestBody (req : Json) : Except Fault (List UInt8) :=
  match req.field? "payload_hex" with
  | some (.str h) =>
    match hexBytes? h with
    | some bytes => .ok bytes
    | none => .error .badValue
  | some _ => .error .wrongType
  | none =>
    match req.field? "event" with
    | some ev => .ok (Text.utf8Bytes (Json.standardText ev))
    | none =>
      match req.field? "payload" with
      | some (.str p) => if Text.encodable p then .ok (Text.utf8Bytes p) else .error .unencodable
      | some _ => .error .missingAttribute
      | none => .error .missingKey

/-- A text to put around a header: nothing when left out, and only a text otherwise. -/
def headerAffix : Option Json → Except Fault String
  | none => .ok ""
  | some (.str s) => .ok s
  | some _ => .error .wrongType

/-- The signature header that a specification describes for a body. The time shift of an object
is read as an integer, and its secret may be any value, which must then sign. -/
def signatureHeader (spec : Json) (body : List UInt8) (secret : Json) (now : Int) :
    Except Fault String :=
  match spec with
  | .null | .str "valid" => Webhook.signatureHeader body secret now
  | .str "none" => .ok ""
  | .str literal => .ok literal
  | .obj _ => do
    let offset ← match spec.field? "t_offset" with
      | none => pure 0
      | some v => Json.asInteger v
    let signed ← Webhook.signatureHeader body ((spec.field? "secret").getD secret) (now + offset)
    let before ← headerAffix (spec.field? "prefix")
    let after ← headerAffix (spec.field? "extra")
    return before ++ signed ++ after
  | _ => .ok ""

end Service

end Bazaar
