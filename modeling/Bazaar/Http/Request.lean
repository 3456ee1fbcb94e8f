import Bazaar.Json.Writer
import Bazaar.Text.Unicode
import Bazaar.Json.Reader
import Bazaar.Text.Blank

/-!
# Requests to the web interface

A request has a method, a path, query parameters, headers and a body. The path and the query are
read with their percent escapes decoded, as UTF-8; header names compare without regard to case.
The body is empty, a JSON document, or raw bytes, which a route that takes a body reads as JSON
when the content type says so.

The address a client is given is read as it reads one: a scheme and an authority are dropped, as
is the fragment, and the `.` and `..` segments of the path are resolved.
-/

namespace Bazaar

namespace Http

/-- The body of a request. -/
inductive Body where
  | empty
  | json (v : Json)
  | raw (bytes : List UInt8)

/-- A request to the web interface. -/
structure Request where
  method : String
  path : String
  query : List (String × String)
  headers : List (String × String)
  body : Body

/-- The value of a hexadecimal digit. -/
def hexDigitValue? (c : Char) : Option Nat :=
  if '0' ≤ c && c ≤ '9' then some (c.toNat - '0'.toNat)
  else if 'a' ≤ c && c ≤ 'f' then some (c.toNat - 'a'.toNat + 10)
  else if 'A' ≤ c && c ≤ 'F' then some (c.toNat - 'A'.toNat + 10)
  else none

/-- Bytes with every `%` and two hexadecimal digits replaced by the byte they name; `plusIsSpace`
also reads `+` as a blank, as query strings do. -/
def unescapeBytes (plusIsSpace : Bool) : List UInt8 → List UInt8
  | [] => []
  | b :: rest =>
    if b == 37 then
      match _hr : rest with
      | h :: l :: after =>
        match hexDigitValue? (Char.ofNat h.toNat), hexDigitValue? (Char.ofNat l.toNat) with
        | some hv, some lv => UInt8.ofNat (hv * 16 + lv) :: unescapeBytes plusIsSpace after
        | _, _ => b :: unescapeBytes plusIsSpace rest
      | _ => b :: unescapeBytes plusIsSpace rest
    else if plusIsSpace && b == 43 then 32 :: unescapeBytes plusIsSpace rest
    else b :: unescapeBytes plusIsSpace rest
termination_by bs => bs.length
decreasing_by all_goals (simp_all; try omega)

/-- A text with its percent escapes decoded as UTF-8, each part that is no UTF-8 read as U+FFFD. -/
def unescape (plusIsSpace : Bool) (s : String) : String :=
  String.ofList (Text.decodeUtf8Lossy (unescapeBytes plusIsSpace (Text.utf8Bytes s)))

/-- The parameters of a query string, blank values kept. -/
def queryParams (q : String) : List (String × String) :=
  (Text.splitOn '&' q).filterMap fun part =>
    if part.isEmpty then none
    else
      match part.toList.splitOn '=' with
      | [] => none
      | k :: rest =>
        some (unescape true (String.ofList k),
          unescape true (String.ofList ((rest.intersperse ['=']).flatten)))

/-- The lower-case form of a header name. -/
def lowerAscii (s : String) : String :=
  String.ofList (s.toList.map Char.toLower)

/-- Whether a content type names JSON: its media type, the part before any `;` with the blanks
around it removed and in any case, is `application/json` or an `application` type whose subtype
ends in `+json`. A media type without exactly one slash counts as plain text. -/
def isJsonContentType (value : String) : Bool :=
  let media := lowerAscii (Text.trimBlank (String.ofList (value.toList.takeWhile (· != ';'))))
  match Text.splitOn '/' media with
  | [main, sub] => main == "application" && (sub == "json" || sub.endsWith "+json")
  | _ => false

/-- Whether a character may stand in a scheme after its first letter. -/
def isSchemeChar (c : Char) : Bool :=
  c.isAlphanum || c == '+' || c == '-' || c == '.'

/-- What follows a scheme and its `://`, when an address starts with them. -/
def afterScheme? : List Char → Option (List Char)
  | c :: rest =>
    if !c.isAlpha then none
    else
      match rest.dropWhile isSchemeChar with
      | ':' :: '/' :: '/' :: more => some more
      | _ => none
  | [] => none

/-- A path with its `.` segments dropped and each `..` segment dropped with the segment before it;
a `..` at the root stays there. -/
def removeDotSegments (path : String) : String :=
  let parts := Text.splitOn '/' path
  if !(parts.contains "." || parts.contains "..") then path
  else
    let kept := parts.foldl (fun out part =>
      if part == "." then out
      else if part == ".." then (if out.isEmpty || out == [""] then out else out.dropLast)
      else out ++ [part]) []
    "/".intercalate kept

/-- Where an address sends a request: a path and, when the address has a `?`, a query. -/
structure Target where
  path : String
  query : Option String

/-- The target of an address. The fragment after `#` is not sent. An address with a scheme and an
authority keeps the path after the authority; any other is taken from the root, so that an
authority after `//` and the slashes that start the path are dropped. The `.` and `..` segments of
the path are resolved, and an empty path is the root. -/
def Target.ofText (text : String) : Target :=
  let cs := text.toList.takeWhile (· != '#')
  let beyond (more : List Char) : List Char := more.dropWhile fun c => c != '/' && c != '?'
  let (absolute, rest) := match afterScheme? cs with
    | some more => (true, beyond more)
    | none =>
      match cs with
      | '/' :: '/' :: more => (false, beyond more)
      | _ => (false, cs)
  let pathPart := rest.takeWhile (· != '?')
  let query := match rest.drop pathPart.length with
    | '?' :: q => some (String.ofList q)
    | _ => none
  let path := if absolute then pathPart else '/' :: pathPart.dropWhile (· == '/')
  let normal := removeDotSegments (String.ofList path)
  ⟨if normal.isEmpty then "/" else normal, query⟩

namespace Request

/-- The value of a header, by name in any case. -/
def header? (r : Request) (name : String) : Option String :=
  (r.headers.find? fun kv => lowerAscii kv.1 == lowerAscii name).map (·.2)

/-- The value of a query parameter; when repeated, the last one. -/
def param? (r : Request) (name : String) : Option String :=
  ((r.query.filter (·.1 == name)).getLast?).map (·.2)

/-- The parts of the path between slashes. -/
def segments (r : Request) : List String :=
  match Text.splitOn '/' r.path with
  | "" :: rest => rest
  | parts => parts

end Request

end Http

end Bazaar
