import Bazaar.Crypto.Sha256
import Bazaar.Number.Literal
import Bazaar.Text.Unicode
import Bazaar.Json.Coerce

/-!
# Webhook signatures

A webhook body is signed by a header `t=<timestamp>,v1=<digest>`, where the digest is the
HMAC-SHA256, in lower-case hexadecimal, of `"<timestamp>."` followed by the body, under the
endpoint's secret. The timestamp is written in decimal; an integer of more than 4300 digits cannot
be, so it signs nothing.

A header is checked by the card processor's library, which is given the body decoded as UTF-8 text
and encodes it again; a body that is not UTF-8 is refused before the library is called.
`verifyWith` takes the library's check as a parameter, and `AcceptsSigned` is the rule its
documentation gives. `libraryCheck` is the check the model runs: the header must name a timestamp
and have at least one `v1` digest, one of its digests must be the expected one, and the timestamp
must be recent, not more than the tolerance before the clock (a false tolerance, such as zero,
accepts any age, and a future timestamp always passes). The clock is a moment past the whole
second `now`, so a timestamp exactly the tolerance old is already too old. A secret made only of
ASCII blanks verifies nothing.

A secret and a tolerance come from settings as they were given: a secret must be a text, and a
tolerance must be a number.
-/

namespace Bazaar

namespace Webhook

/-- The message that a signature covers: the timestamp text, a point, and the body. -/
def signedMessage (timestampText : String) (body : List UInt8) : List UInt8 :=
  Text.utf8Bytes (timestampText ++ ".") ++ body

/-- The hexadecimal digest of a body at a timestamp under a secret. -/
def digest (body : List UInt8) (secret : String) (timestampText : String) : String :=
  hexText (hmacSha256 (Text.utf8Bytes secret) (signedMessage timestampText body))

/-- The signature header of a body at a timestamp. -/
def header (body : List UInt8) (secret : String) (timestampText : String) : String :=
  "t=" ++ timestampText ++ ",v1=" ++ digest body secret timestampText

/-- The text of a secret, which must be a text that can be encoded. -/
def secretText : Json → Except Fault String
  | .str s => if Text.encodable s then .ok s else .error .unencodable
  | _ => .error .missingAttribute

/-- The signature header of a body at a timestamp, under a secret as settings give it. -/
def signedHeader (body : List UInt8) (secret : Json) (timestampText : String) :
    Except Fault String := do
  return header body (← secretText secret) timestampText

/-- The decimal text of a timestamp. Converting an integer of more than 4300 digits to text raises
ValueError. -/
def stampText (t : Int) : Except Fault String :=
  if 4300 < (toString t.natAbs).length then .error .badValue else .ok (toString t)

/-- The signature header of a body at an integer timestamp, under a secret as settings give it.
The timestamp is written before the secret is read. -/
def signatureHeader (body : List UInt8) (secret : Json) (t : Int) : Except Fault String := do
  signedHeader body secret (← stampText t)

/-- Whether a secret is made only of ASCII blanks. -/
def isBlankSecret (s : String) : Bool :=
  s.toList.all fun c =>
    c == ' ' || c == '\t' || c == '\n' || c == '\r' || c == '\x0b' || c == '\x0c'

/-- One item of a header, `key=value`, cut at the first two equals signs. -/
def splitItem (item : String) : List String :=
  match Text.splitOn '=' item with
  | a :: b :: c :: rest => [a, b, "=".intercalate (c :: rest)]
  | parts => parts

/-- The timestamp and the `v1` digests of a header, or `none` when it names no readable
timestamp or has a `t` or `v1` item without a value. -/
def parseHeader (h : String) : Option (Int × List String) := do
  let items := (Text.splitOn ',' h).map splitItem
  let stamps ← (items.filter (fun i => i.head? == some "t")).mapM (fun i => i[1]?)
  let first ← stamps.head?
  let t ← Literal.int? first
  let sigItems := items.filter (fun i => i.head? == some "v1")
  let sigs ← sigItems.mapM (fun i => i[1]?)
  pure (t, sigs)

/-- Whether a text is ASCII only. -/
def isAscii (s : String) : Bool :=
  s.toList.all (fun c => c.toNat < 0x80)

/-- Compares the expected digest with each given one in turn, stopping at the first match. A
digest with a character outside ASCII cannot be compared. -/
def anyMatches (expected : String) : List String → Except Fault Bool
  | [] => .ok false
  | s :: rest =>
    if !isAscii s then .error .wrongType
    else if s == expected then .ok true
    else anyMatches expected rest

/-- The refusal of a header. -/
def rejected : Fault :=
  .webhookSignature "Invalid webhook signature"

/-- Whether a timestamp is older than the tolerance allows at the clock `now`. A false tolerance
allows any age; `true` counts as one second. -/
def tooOld (t : Int) (tolerance : Json) (now : Int) : Except Fault Bool :=
  if !tolerance.truthy then .ok false
  else
    match tolerance with
    | .int n => .ok (t + n ≤ now)
    | .bool _ => .ok (t + 1 ≤ now)
    | .float x => .ok (x ≤ Float.ofInt (now - t))
    | _ => .error .wrongType

/-- How the library's check of a header can fail: it refuses the signature, or it raises another
error, which passes through unchanged. -/
inductive CheckFailure
  | refused
  | raised (f : Fault)

/-- The library's check of a signature header: given the payload text, the header, the secret and
the tolerance as settings give them, and the clock, it accepts or fails. -/
abbrev HeaderCheck := String → String → Json → Json → Int → Except CheckFailure Unit

/-- The digest the library expects of a payload text at a timestamp: the HMAC-SHA256, in
lower-case hexadecimal, of the UTF-8 bytes of `"<timestamp>.<payload>"` under the secret. -/
def textDigest (payload key : String) (t : Int) : String :=
  hexText (hmacSha256 (Text.utf8Bytes key) (Text.utf8Bytes (toString t ++ "." ++ payload)))

/-- The acceptance rule that the library documents: a header `t=<t>,v1=<digest>` is accepted when
the digest is the one expected of the payload under the secret and `t` is no more than the
tolerance before the clock. It is asked only of secrets that can be encoded and of timestamps of at
most 4300 digits, the most an integer text may have. -/
def AcceptsSigned (check : HeaderCheck) : Prop :=
  ∀ (payload secret : String) (t tolerance now : Int),
    Text.encodable secret = true → (toString t.natAbs).length ≤ 4300 → now - t ≤ tolerance →
    check payload ("t=" ++ toString t ++ ",v1=" ++ textDigest payload secret t) (.str secret)
      (.int tolerance) now = .ok ()

/-- Checks a header against a body with a library check. The body must be UTF-8, and the check is
given its text; a refusal becomes the webhook's signature error. -/
def verifyWith (check : HeaderCheck) (body : List UInt8) (h : String) (secret tolerance : Json)
    (now : Int) : Except Fault Unit :=
  match Text.utf8Text? body with
  | none => .error (.webhookSignature "Webhook payload is not valid UTF-8")
  | some payload =>
    match check payload h secret tolerance now with
    | .ok () => .ok ()
    | .error .refused => .error rejected
    | .error (.raised f) => .error f

/-- The library's check as the model runs it. -/
def libraryCheck : HeaderCheck := fun payload h secret tolerance now => do
  let some (t, sigs) := parseHeader h | throw .refused
  if sigs.isEmpty then throw .refused
  let key ← (secretText secret).mapError .raised
  if isBlankSecret key then throw .refused
  if !(← (anyMatches (textDigest payload key t) sigs).mapError .raised) then throw .refused
  if ← (tooOld t tolerance now).mapError .raised then throw .refused

/-- Checks a header against a body with the library's check. -/
def verify (body : List UInt8) (h : String) (secret : Json) (tolerance : Json) (now : Int) :
    Except Fault Unit :=
  verifyWith libraryCheck body h secret tolerance now

end Webhook

end Bazaar
