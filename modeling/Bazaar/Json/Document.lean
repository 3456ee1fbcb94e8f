import Bazaar.Json.Reader
import Bazaar.Text.Unicode

/-!
# JSON documents as bytes

A body of bytes is decoded before it is read. Its encoding is told by its first bytes: a byte-order
mark of UTF-32, UTF-16 or UTF-8 names it (and is dropped); without one, the places of zero bytes in
the first four tell UTF-32 and UTF-16 and their byte order apart (JSON text starts with an ASCII
character); anything else is UTF-8. Encoded surrogates are accepted.
-/

namespace Bazaar

namespace Json

/-- The encodings a body may have. -/
inductive Encoding where
  | utf8
  | utf8Marked
  | utf16Marked
  | utf16 (bigEndian : Bool)
  | utf32Marked
  | utf32 (bigEndian : Bool)

/-- The encoding of a body, told by its first bytes. -/
def detectEncoding (bytes : List UInt8) : Encoding :=
  let b := bytes.map UInt8.toNat
  match b with
  | 0xFF :: 0xFE :: 0 :: 0 :: _ => .utf32Marked
  | 0 :: 0 :: 0xFE :: 0xFF :: _ => .utf32Marked
  | 0xFF :: 0xFE :: _ => .utf16Marked
  | 0xFE :: 0xFF :: _ => .utf16Marked
  | 0xEF :: 0xBB :: 0xBF :: _ => .utf8Marked
  | b0 :: b1 :: b2 :: b3 :: _ =>
    if b0 == 0 then (if b1 != 0 then .utf16 true else .utf32 true)
    else if b1 == 0 then (if b2 != 0 || b3 != 0 then .utf16 false else .utf32 false)
    else .utf8
  | [b0, b1] =>
    if b0 == 0 then .utf16 true
    else if b1 == 0 then .utf16 false
    else .utf8
  | _ => .utf8

/-- Decodes a body in its detected encoding. A mark names the byte order and is dropped; without
one, UTF-16 and UTF-32 are little-endian. -/
def decodeBody (bytes : List UInt8) : Option (List Char) :=
  let b := bytes.map UInt8.toNat
  match detectEncoding bytes with
  | .utf8 => Text.decodeUtf8 true bytes
  | .utf8Marked => Text.decodeUtf8 true (bytes.drop 3)
  | .utf16Marked =>
    match b with
    | 0xFE :: 0xFF :: _ => Text.decodeUtf16 true (bytes.drop 2)
    | _ => Text.decodeUtf16 false (bytes.drop 2)
  | .utf16 bigEndian => Text.decodeUtf16 bigEndian bytes
  | .utf32Marked =>
    match b with
    | 0 :: 0 :: 0xFE :: 0xFF :: _ => Text.decodeUtf32 true (bytes.drop 4)
    | _ => Text.decodeUtf32 false (bytes.drop 4)
  | .utf32 bigEndian => Text.decodeUtf32 bigEndian bytes

/-- Why a body is no JSON document: its bytes are not text, or its text is no document, for a
cause found at a place counted in characters from the start of the text. -/
inductive BodyError where
  | undecodable
  | malformed (position : Nat) (cause : ReadCause)

/-- Reads a JSON document from bytes. -/
def parseBytes (bytes : List UInt8) : Except BodyError Json :=
  match decodeBody bytes with
  | none => .error .undecodable
  | some cs =>
    match parse cs with
    | .ok v => .ok v
    | .error e => .error (.malformed (e.position cs.length) e.cause)

/-- Reads a JSON document from text; a leading byte-order mark is refused. -/
def parseText (s : String) : Except ReadError Json :=
  match s.toList with
  | c :: rest =>
    if c.toNat == 0xFEFF then .error ⟨rest.length + 1, .grammar .byteOrderMark⟩
    else parse (c :: rest)
  | [] => parse []

end Json

end Bazaar
