import Bazaar.Json.Value
import Bazaar.Number.Nearest
import Bazaar.Text.Unicode

/-!
# Reading JSON

The reader takes the JSON grammar with three extensions that gateway bodies may use: the words
`NaN`, `Infinity` and `-Infinity` stand for doubles. A number without a fraction or exponent is an
integer of any size; any other is the nearest double. Inside strings, control characters must be
escaped, and a `\u` escape of a high surrogate followed by one of a low surrogate is one character
(a lone surrogate, which no text can hold, becomes the character that stands in for it, see
`Text.surrogateStandIn`). Of repeated keys the first keeps its
place and the last its value. Blanks are the space, tab, line feed and carriage return, and only
blanks may surround the value.

A text that breaks the grammar is refused with its `Flaw`, what the reader expected where it
stopped, and that place, counted by the characters left after it; a string that is not closed is
refused at its opening quote, and an escape at its backslash or its letter u.

Two limits guard the reader: an integer literal may have at most 4300 digits, and arrays and
objects may nest at most `maxNesting` deep; a document beyond either is refused for that cause
rather than for its syntax.

Each reading step returns the rest of the input; nested values use a fuel of one step per input
character, which is always enough because every value takes at least one character.
-/

namespace Bazaar

namespace Json

/-- Where a text breaks the grammar: what the reader expected there, or what it found. -/
inductive Flaw where
  /-- A value was expected. -/
  | value
  /-- A member name, a string, was expected. -/
  | propertyName
  /-- The colon after a member name was expected. -/
  | colon
  /-- A comma, or the end of the array or object, was expected. -/
  | comma
  /-- A string is not closed; the place is its opening quote. -/
  | unterminated
  /-- A control character stands unescaped in a string. -/
  | control
  /-- A backslash starts no escape. -/
  | escape
  /-- A \u escape lacks its four hexadecimal digits; the place is its letter u. -/
  | unicodeEscape
  /-- Something follows the document. -/
  | extraData
  /-- The text starts with a byte-order mark. -/
  | byteOrderMark
  deriving Inhabited

/-- The message of a grammar flaw. -/
def Flaw.message : Flaw → String
  | value => "Expecting value"
  | propertyName => "Expecting property name enclosed in double quotes"
  | colon => "Expecting ':' delimiter"
  | comma => "Expecting ',' delimiter"
  | unterminated => "Unterminated string starting at"
  | control => "Invalid control character at"
  | escape => "Invalid \\escape"
  | unicodeEscape => "Invalid \\uXXXX escape"
  | extraData => "Extra data"
  | byteOrderMark => "Unexpected UTF-8 BOM (decode using utf-8-sig)"

/-- Why a text is no JSON document. -/
inductive ReadCause where
  /-- The text breaks the grammar. -/
  | grammar (flaw : Flaw)
  /-- An integer literal has more digits than may be converted. -/
  | longInteger
  /-- Arrays and objects nest too deeply; the flag tells whether the container that went too deep
  is an array. -/
  | tooDeep (inArray : Bool)
  deriving Inhabited

/-- Why a text is no JSON document, and where: the number of characters left from that place to
the end of the text. -/
structure ReadError where
  remaining : Nat
  cause : ReadCause := .grammar .value
  deriving Inhabited

/-- The place of an error in a text of `length` characters, counted from zero. -/
def ReadError.position (e : ReadError) (length : Nat) : Nat :=
  length - e.remaining

/-- The most digits an integer literal may have. -/
def maxIntegerDigits : Nat := 4300

/-- How deep arrays and objects may nest. -/
def maxNesting : Nat := 990

/-- The message of a document nested too deeply. -/
def nestingMessage (inArray : Bool) : String :=
  "maximum recursion depth exceeded while decoding a JSON " ++
    (if inArray then "array" else "object") ++ " from a unicode string"

/-- A step of reading: the value read and the input left, or the error. -/
abbrev Read (α : Type) := Except ReadError (α × List Char)

/-- Whether a character is a JSON blank. -/
def isJsonBlank (c : Char) : Bool :=
  c == ' ' || c == '\t' || c == '\n' || c == '\r'

/-- Drops leading blanks. -/
def skipBlank (cs : List Char) : List Char :=
  cs.dropWhile isJsonBlank

/-- Fails with a grammar flaw at the start of `cs`. -/
def failAt {α : Type} (flaw : Flaw) (cs : List Char) : Read α :=
  .error ⟨cs.length, .grammar flaw⟩

/-- The value of a hexadecimal digit. -/
def hexValue? (c : Char) : Option Nat :=
  if '0' ≤ c ∧ c ≤ '9' then some (c.toNat - '0'.toNat)
  else if 'a' ≤ c ∧ c ≤ 'f' then some (c.toNat - 'a'.toNat + 10)
  else if 'A' ≤ c ∧ c ≤ 'F' then some (c.toNat - 'A'.toNat + 10)
  else none

/-- Reads the four hexadecimal digits of a `\u` escape. -/
def hex4? : List Char → Option (Nat × List Char)
  | a :: b :: c :: d :: rest => do
    let va ← hexValue? a
    let vb ← hexValue? b
    let vc ← hexValue? c
    let vd ← hexValue? d
    pure (((va * 16 + vb) * 16 + vc) * 16 + vd, rest)
  | _ => none

/-- The character of a code point read from escapes; a surrogate has none and becomes the
character that stands in for it. -/
def charOfCode (n : Nat) : Char :=
  if 0xD800 ≤ n ∧ n < 0xE000 then Text.standInOf n else Char.ofNat n

/-- The character of a one-letter escape. -/
def simpleEscape? : Char → Option Char
  | '"' => some '"'
  | '\\' => some '\\'
  | '/' => some '/'
  | 'b' => some '\x08'
  | 'f' => some '\x0c'
  | 'n' => some '\n'
  | 'r' => some '\r'
  | 't' => some '\t'
  | _ => none

/-- Whether a code point is a high surrogate, the first of a pair. -/
def isHighSurrogate (n : Nat) : Bool :=
  0xD800 ≤ n && n < 0xDC00

/-- Whether a code point is a low surrogate, the second of a pair. -/
def isLowSurrogate (n : Nat) : Bool :=
  0xDC00 ≤ n && n < 0xE000

/-- Reads the body of a string after its opening quote, up to and past the closing quote. A string
that is not closed is reported at its opening quote. A `\u` escape needs its four digits and one
more character after them; an escape of a high surrogate is joined with a `\u` escape of a low
one that follows it, when at least one character follows that too. -/
def readString (cs : List Char) : Read String :=
  go (cs.length + 1) cs [] cs.length
where
  /-- Reads on from `cs`; `start` is the number of characters left from the opening quote. -/
  go (start : Nat) : List Char → List Char → Nat → Read String
    | _, _, 0 => .error ⟨start, .grammar .unterminated⟩
    | [], _, _ + 1 => .error ⟨start, .grammar .unterminated⟩
    | c :: rest, acc, fuel + 1 =>
      if c == '"' then .ok (String.ofList acc.reverse, rest)
      else if c == '\\' then
        match rest with
        | [] => .error ⟨start, .grammar .unterminated⟩
        | 'u' :: more =>
          if more.length < 5 then failAt .unicodeEscape rest
          else
            match hex4? more with
            | none => failAt .unicodeEscape rest
            | some (hi, after) =>
              if isHighSurrogate hi && after.length ≥ 7 then
                match after with
                | '\\' :: 'u' :: more2 =>
                  match hex4? more2 with
                  | none => failAt .unicodeEscape (after.drop 1)
                  | some (lo, after2) =>
                    if isLowSurrogate lo then
                      let joined := Char.ofNat (0x10000 + (hi - 0xD800) * 0x400 + (lo - 0xDC00))
                      go start after2 (joined :: acc) fuel
                    else go start after (charOfCode hi :: acc) fuel
                | _ => go start after (charOfCode hi :: acc) fuel
              else go start after (charOfCode hi :: acc) fuel
        | e :: more =>
          match simpleEscape? e with
          | some d => go start more (d :: acc) fuel
          | none => failAt .escape (c :: rest)
      else if c.toNat < 0x20 then failAt .control (c :: rest)
      else go start rest (c :: acc) fuel

/-- Splits the leading ASCII digits. -/
def spanDigits (cs : List Char) : List Char × List Char :=
  (cs.takeWhile Char.isDigit, cs.dropWhile Char.isDigit)

/-- The value of a list of ASCII digits. -/
def digitsNat (ds : List Char) : Nat :=
  ds.foldl (fun n c => 10 * n + (c.toNat - '0'.toNat)) 0

/-- Reads a number: `-?(0|[1-9][0-9]*)(.[0-9]+)?([eE][-+]?[0-9]+)?`. A fraction or exponent that
is started but has no digits is left unread. -/
def readNumber (cs : List Char) : Read Json :=
  let (negative, body) := match cs with
    | '-' :: rest => (true, rest)
    | _ => (false, cs)
  let (intDigits, rest) :=
    match body with
    | '0' :: rest => (['0'], rest)
    | _ => spanDigits body
  if intDigits.isEmpty then failAt .value cs
  else
    let (fracDigits, rest) :=
      match rest with
      | '.' :: more =>
        let (ds, after) := spanDigits more
        if ds.isEmpty then ([], rest) else (ds, after)
      | _ => ([], rest)
    let (expo, rest, hasExp) :=
      match rest with
      | e :: more =>
        if e == 'e' || e == 'E' then
          let (neg, digitsPart) := match more with
            | '-' :: m => (true, m)
            | '+' :: m => (false, m)
            | m => (false, m)
          let (ds, after) := spanDigits digitsPart
          if ds.isEmpty then ((0 : Int), rest, false)
          else ((if neg then -(digitsNat ds : Int) else digitsNat ds), after, true)
        else ((0 : Int), rest, false)
      | [] => ((0 : Int), rest, false)
    if fracDigits.isEmpty && !hasExp then
      if intDigits.length > maxIntegerDigits then .error ⟨cs.length, .longInteger⟩
      else
        let n := digitsNat intDigits
        .ok (.int (if negative then -(n : Int) else n), rest)
    else
      let c := digitsNat (intDigits ++ fracDigits)
      .ok (.float (Float.ofDecimal negative c (expo - fracDigits.length)), rest)

/-- Whether `word` starts the input; gives the rest after it. -/
def afterWord (word : List Char) (cs : List Char) : Option (List Char) :=
  if word.isPrefixOf cs then some (cs.drop word.length) else none

/-- Adds a member to an object under construction: a repeated key keeps its first place and takes
the new value. -/
def addMember (fields : List (String × Json)) (key : String) (value : Json) :
    List (String × Json) :=
  setField fields key value

mutual

/-- Reads one value at the start of the input (no leading blanks), `depth` containers deep. -/
def readValue : Nat → Nat → List Char → Read Json
  | 0, _, cs => failAt .value cs
  | fuel + 1, depth, cs =>
    match cs with
    | '"' :: rest => (readString rest).map fun (s, r) => (.str s, r)
    | '{' :: rest =>
      if depth ≥ maxNesting then .error ⟨cs.length, .tooDeep false⟩
      else readObject fuel (depth + 1) (skipBlank rest) []
    | '[' :: rest =>
      if depth ≥ maxNesting then .error ⟨cs.length, .tooDeep true⟩
      else readArray fuel (depth + 1) (skipBlank rest) []
    | 'n' :: _ =>
      match afterWord "null".toList cs with
      | some r => .ok (.null, r)
      | none => failAt .value cs
    | 't' :: _ =>
      match afterWord "true".toList cs with
      | some r => .ok (.bool true, r)
      | none => failAt .value cs
    | 'f' :: _ =>
      match afterWord "false".toList cs with
      | some r => .ok (.bool false, r)
      | none => failAt .value cs
    | 'N' :: _ =>
      match afterWord "NaN".toList cs with
      | some r => .ok (.float (0.0 / 0.0), r)
      | none => failAt .value cs
    | 'I' :: _ =>
      match afterWord "Infinity".toList cs with
      | some r => .ok (.float (Float.infinity false), r)
      | none => failAt .value cs
    | '-' :: 'I' :: _ =>
      match afterWord "-Infinity".toList cs with
      | some r => .ok (.float (Float.infinity true), r)
      | none => failAt .value cs
    | _ => readNumber cs

/-- Reads the items of an array after `[` and blanks, up to and past `]`; the array is `depth`
containers deep. -/
def readArray : Nat → Nat → List Char → List Json → Read Json
  | 0, _, cs, _ => failAt .value cs
  | fuel + 1, depth, cs, acc =>
    match cs with
    | ']' :: rest =>
      if acc.isEmpty then .ok (.arr [], rest) else failAt .value cs
    | _ =>
      match readValue fuel depth cs with
      | .error e => .error e
      | .ok (v, rest) =>
        match skipBlank rest with
        | ',' :: more => readArray fuel depth (skipBlank more) (v :: acc)
        | ']' :: more => .ok (.arr (v :: acc).reverse, more)
        | other => failAt .comma other

/-- Reads the members of an object after `{` and blanks, up to and past `}`; the object is
`depth` containers deep. -/
def readObject : Nat → Nat → List Char → List (String × Json) → Read Json
  | 0, _, cs, _ => failAt .value cs
  | fuel + 1, depth, cs, acc =>
    match cs with
    | '}' :: rest =>
      if acc.isEmpty then .ok (.obj [], rest) else failAt .propertyName cs
    | '"' :: rest =>
      match readString rest with
      | .error e => .error e
      | .ok (key, afterKey) =>
        match skipBlank afterKey with
        | ':' :: afterColon =>
          match readValue fuel depth (skipBlank afterColon) with
          | .error e => .error e
          | .ok (v, rest) =>
            let acc := addMember acc key v
            match skipBlank rest with
            | ',' :: more =>
              match skipBlank more with
              | '"' :: _ => readObject fuel depth (skipBlank more) acc
              | other => failAt .propertyName other
            | '}' :: more => .ok (.obj acc, more)
            | other => failAt .comma other
        | other => failAt .colon other
    | _ => failAt .propertyName cs

end

/-- Reads a whole JSON document: one value with blanks around it and nothing else. -/
def parse (cs : List Char) : Except ReadError Json :=
  let start := skipBlank cs
  match readValue (cs.length + 1) 0 start with
  | .error e => .error e
  | .ok (v, rest) =>
    match skipBlank rest with
    | [] => .ok v
    | other => .error ⟨other.length, .grammar .extraData⟩

/-- Reads a JSON document from a string. -/
def parseString (s : String) : Except ReadError Json :=
  parse s.toList

end Json

end Bazaar
