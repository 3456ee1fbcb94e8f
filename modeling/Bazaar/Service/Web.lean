import Bazaar.Http.Routes
import Bazaar.Service.Body

/-!
# Requests to the web interface in scenarios

A scenario step describes a request: its method, its path (with percent escapes and possibly a
query string), query parameters, headers, and a body given as JSON or as raw bytes. Raw bodies are
sent with a content type other than JSON, unless the headers name one, and signed for the
gateway's webhook as the step says, with the marketplace's webhook secret at its clock. The answer
is the response's status and body.
-/

namespace Bazaar

namespace Service

/-- A query parameter value as one text: `true` and `false` in lower case, nothing for `null`,
and anything else as it is shown. -/
def paramText (v : Json) : String :=
  match v with
  | .str s => s
  | .bool b => if b then "true" else "false"
  | .null => ""
  | other => other.display

/-- The texts a query parameter value is sent as: each item of a list, or the value alone. -/
def paramTexts (v : Json) : List String :=
  match v with
  | .arr xs => xs.map paramText
  | x => [paramText x]

/-- The name and value of one item of a list of query parameters: its first two items. -/
def paramPair (item : Json) : Except Fault (String × Json) :=
  match item with
  | .arr (k :: v :: _) => .ok (k.display, v)
  | .arr _ => .error .indexOutOfRange
  | .str s =>
    match s.toList with
    | k :: v :: _ => .ok (String.singleton k, .str (String.singleton v))
    | _ => .error .indexOutOfRange
  | .obj _ => .error .missingKey
  | _ => .error .wrongType

/-- Pairs grouped by name, the names in the order they first appear. -/
def groupByName (pairs : List (String × Json)) : List (String × Json) :=
  let names := pairs.foldl (fun acc kv => if acc.contains kv.1 then acc else acc ++ [kv.1]) []
  names.flatMap fun n => pairs.filter (·.1 == n)

/-- The query a step's `params` sends in place of the address's query: nothing for a false value,
the parameters of a text, the members of an object (a list value sending one parameter per item),
and the pairs of a list of pairs, grouped by name. -/
def paramsQuery (v : Json) : Except Fault (List (String × String)) :=
  if !v.truthy then .ok []
  else
    match v with
    | .str s => .ok (Http.queryParams s)
    | .obj fs => .ok (fs.flatMap fun kv => (paramTexts kv.2).map fun t => (kv.1, t))
    | .arr items => do
      let pairs ← items.mapM paramPair
      return (groupByName pairs).map fun kv => (kv.1, paramText kv.2)
    | _ => .error .missingAttribute

/-- Adds a header unless one of that name, in any case, is given. -/
def withDefaultHeader (name value : String) (headers : List (String × String)) :
    List (String × String) :=
  if headers.any (fun kv => Http.lowerAscii kv.1 == name) then headers else headers ++ [(name, value)]

/-- The request a step describes. Its address is read as a client reads one; `params`, when given,
replaces the address's query. A JSON body is sent as JSON and a raw body as bytes of no particular
type, unless the step's headers name a content type. -/
def requestOf (st : Json) (m : Market) : Except Fault Http.Request := do
  let method := match st.field? "method" with
    | some (.str s) => String.ofList (s.toList.map Char.toUpper)
    | _ => "GET"
  let .str address := st.fieldOrNull "path" | throw .missingKey
  let target := Http.Target.ofText address
  let query ← match st.field? "params" with
    | none | some .null => pure (Http.queryParams (target.query.getD ""))
    | some v => paramsQuery v
  let headers := match st.field? "headers" with
    | some (.obj fs) => fs.map fun kv => (kv.1, kv.2.display)
    | _ => []
  let rawGiven := st.hasField "payload_hex" || st.hasField "event" || st.hasField "payload"
  let (body, extra) ← if rawGiven then do
      let bytes ← requestBody st
      let spec := st.fieldOrNull "signature"
      let h ← signatureHeader spec bytes m.settings.webhookSecret m.clock
      let signature : List (String × String) := match spec with
        | .str "none" => []
        | _ => [("stripe-signature", h)]
      pure (Http.Body.raw bytes,
        withDefaultHeader "content-type" "application/octet-stream" signature)
    else
      match st.field? "json" with
      | none | some .null => pure (Http.Body.empty, [])
      | some v => pure (Http.Body.json v, [("content-type", "application/json")])
  let given := headers ++ extra.filter fun kv =>
    !headers.any (fun h => Http.lowerAscii h.1 == kv.1)
  return ⟨method, Http.unescape false target.path, query, given, body⟩

/-- Serves the request a step describes; answers the response's status and body, which is empty
for a request by `HEAD`. -/
def httpStep (st : Json) : MarketM Json := do
  let req ← Market.lift (requestOf st (← get))
  let res ← Http.serve req
  let body := if req.method == "HEAD" then .str "" else res.body
  return .obj [("status", .int res.status), ("body", body)]

end Service

end Bazaar
