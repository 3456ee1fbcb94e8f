import Bazaar.Json.Value
import Bazaar.Number.FloatText
import Bazaar.Text.Printable
import Bazaar.Text.Unicode

/-!
# Writing JSON

A JSON text is written under a `Json.Style`: the separators between items and after keys, whether
text outside ASCII is escaped, and how a double is spelled. Two styles are used: the standard one
of webhook bodies and stored gateway responses (`", "`, `": "`, ASCII only, `NaN` and `Infinity`),
and the compact one of the program's answers, where a non-finite double is the object
`{"float": "nan"}`, `{"float": "inf"}` or `{"float": "-inf"}`. In both, a character that stands
in for a lone surrogate is written as the escape of that surrogate.

The module also gives the display text of a value as the program writes it into messages and ids:
a string as itself, a number in its shortest form, `True`, `False` and `None`, and lists and
objects in brackets with their strings quoted.
-/

namespace Bazaar

namespace Json

/-- The decisions of a JSON text format. -/
structure Style where
  itemSeparator : String
  keySeparator : String
  asciiOnly : Bool
  floatText : Float → String

/-- A lower-case hexadecimal digit. -/
def hexDigit (n : Nat) : Char :=
  if n < 10 then Char.ofNat ('0'.toNat + n) else Char.ofNat ('a'.toNat + n - 10)

/-- `n` in lower-case hexadecimal, padded with zeros to `width` digits. -/
def hexPadded (width n : Nat) : String :=
  let ds := (Nat.toDigits 16 n)
  String.ofList (List.replicate (width - ds.length) '0' ++ ds)

/-- The escape `\uXXXX` of one UTF-16 unit. -/
def unitEscape (n : Nat) : String :=
  "\\u" ++ hexPadded 4 n

/-- The JSON spelling of one character inside a string. -/
def escapeChar (asciiOnly : Bool) (c : Char) : String :=
  match c with
  | '"' => "\\\""
  | '\\' => "\\\\"
  | '\n' => "\\n"
  | '\r' => "\\r"
  | '\t' => "\\t"
  | '\x08' => "\\b"
  | '\x0c' => "\\f"
  | _ =>
    let n := c.toNat
    if let some unit := Text.standInUnit? c then unitEscape unit
    else if n < 0x20 then unitEscape n
    else if asciiOnly && n ≥ 0x7F then
      if n < 0x10000 then unitEscape n
      else
        let m := n - 0x10000
        unitEscape (0xD800 + m / 0x400) ++ unitEscape (0xDC00 + m % 0x400)
    else String.singleton c

/-- A string as a JSON string literal. -/
def quote (asciiOnly : Bool) (s : String) : String :=
  "\"" ++ String.join (s.toList.map (escapeChar asciiOnly)) ++ "\""

mutual

/-- The JSON text of a value. -/
def render (st : Style) : Json → String
  | null => "null"
  | bool b => if b then "true" else "false"
  | int n => toString n
  | float x => st.floatText x
  | str s => quote st.asciiOnly s
  | arr items => "[" ++ st.itemSeparator.intercalate (renderItems st items) ++ "]"
  | obj fields => "\x7b" ++ st.itemSeparator.intercalate (renderFields st fields) ++ "\x7d"

/-- The JSON texts of the items of an array. -/
def renderItems (st : Style) : List Json → List String
  | [] => []
  | v :: rest => render st v :: renderItems st rest

/-- The JSON texts of the members of an object. -/
def renderFields (st : Style) : List (String × Json) → List String
  | [] => []
  | (k, v) :: rest => (quote st.asciiOnly k ++ st.keySeparator ++ render st v) :: renderFields st rest

end

/-- The standard style: `", "` between items, `": "` after keys, every character outside ASCII
escaped, and the non-finite doubles spelled `NaN`, `Infinity` and `-Infinity`. -/
def Style.standard : Style :=
  { itemSeparator := ", ", keySeparator := ": ", asciiOnly := true,
    floatText := FloatFormat.json.render }

/-- The spelling of a double in an answer: its shortest text, or a one-member object naming a
non-finite value. -/
def answerFloat (x : Float) : String :=
  match Binary.ofFloat x with
  | .finite .. => FloatFormat.plain.render x
  | .nan => "\x7b\"float\":\"nan\"\x7d"
  | .infinite negative => if negative then "\x7b\"float\":\"-inf\"\x7d" else "\x7b\"float\":\"inf\"\x7d"

/-- The style of answers: no spaces, text as it is, non-finite doubles as `answerFloat` says. -/
def Style.answer : Style :=
  { itemSeparator := ",", keySeparator := ":", asciiOnly := false, floatText := answerFloat }

/-- A value in the standard style. -/
def standardText (v : Json) : String :=
  render Style.standard v

/-- A value as a client sends it as a JSON body: compact, with text as it is. -/
def compactText (v : Json) : String :=
  render Style.answer v

/-! ## Display text -/

/-- A string as a quoted literal: single quotes unless the string holds a single quote and no
double quote; the backslash, the chosen quote, line breaks and tabs escaped, and characters that
are not printable as `\xhh`, `\uhhhh` or `\Uhhhhhhhh`. -/
def literalString (s : String) : String :=
  let q := if s.contains '\'' && !s.contains '"' then '"' else '\''
  let body := s.toList.map fun c =>
    if c == q then "\\" ++ String.singleton c
    else if c == '\\' then "\\\\"
    else if c == '\n' then "\\n"
    else if c == '\r' then "\\r"
    else if c == '\t' then "\\t"
    else if let some unit := Text.standInUnit? c then "\\u" ++ hexPadded 4 unit
    else if Text.isPrintable c then String.singleton c
    else if c.toNat < 0x100 then "\\x" ++ hexPadded 2 c.toNat
    else if c.toNat < 0x10000 then "\\u" ++ hexPadded 4 c.toNat
    else "\\U" ++ hexPadded 8 c.toNat
  String.singleton q ++ String.join body ++ String.singleton q

mutual

/-- The literal text of a value, as it appears inside a list or an object: strings quoted. -/
def literal : Json → String
  | null => "None"
  | bool b => if b then "True" else "False"
  | int n => toString n
  | float x => Float.text x
  | str s => literalString s
  | arr items => "[" ++ ", ".intercalate (literalItems items) ++ "]"
  | obj fields => "\x7b" ++ ", ".intercalate (literalFields fields) ++ "\x7d"

/-- The literal texts of the items of a list. -/
def literalItems : List Json → List String
  | [] => []
  | v :: rest => literal v :: literalItems rest

/-- The literal texts of the members of an object. -/
def literalFields : List (String × Json) → List String
  | [] => []
  | (k, v) :: rest => (literalString k ++ ": " ++ literal v) :: literalFields rest

end

/-- The display text of a value: a string as itself, anything else as its literal. -/
def display : Json → String
  | str s => s
  | v => literal v

end Json

end Bazaar
