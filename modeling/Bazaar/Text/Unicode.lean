/-!
# Unicode encodings of text

Request bodies arrive as bytes. Text is encoded as UTF-8 and decoded from UTF-8, UTF-16 or UTF-32
in either byte order. UTF-8 decoding is strict: no overlong forms, no code points above U+10FFFF,
no truncated sequences, and encoded surrogates only where the caller allows them. A surrogate,
which no text can hold, is decoded as U+FFFD; in UTF-16 a high surrogate followed by a low one is
one character.
-/

namespace Bazaar

namespace Text

/-- The first of the 2048 code points, at the end of plane 16, that stand for the surrogates
U+D800 to U+DFFF. A JSON text may escape a lone surrogate, which no Unicode text can hold; it is
kept as the code point that stands for it, so that it is still one character and can be written
back as its escape, while encoding it as UTF-8 is refused. -/
def surrogateStandIn : Nat := 0x10F800

/-- The character that stands for a surrogate code unit. -/
def standInOf (unit : Nat) : Char :=
  Char.ofNat (surrogateStandIn + (unit - 0xD800))

/-- The surrogate code unit a character stands for, if it stands for one. -/
def standInUnit? (c : Char) : Option Nat :=
  if surrogateStandIn ≤ c.toNat then some (c.toNat - surrogateStandIn + 0xD800) else none

/-- Whether a text can be encoded as UTF-8: it holds no stand-in for a surrogate. -/
def encodable (s : String) : Bool :=
  s.toList.all fun c => (standInUnit? c).isNone

/-- The UTF-8 bytes of a text, character by character. -/
def utf8Bytes (s : String) : List UInt8 :=
  s.toList.flatMap String.utf8EncodeChar

/-- The character of a decoded code point; a surrogate becomes U+FFFD. -/
def charOfScalar (n : Nat) : Char :=
  if 0xD800 ≤ n ∧ n < 0xE000 then '�' else Char.ofNat n

/-- Whether a byte continues a UTF-8 sequence. -/
def isContinuation (b : UInt8) : Bool :=
  b.toNat / 64 == 2

/-- Decodes UTF-8 bytes; `surrogates` says whether encoded surrogates are accepted. -/
def decodeUtf8 (surrogates : Bool) : List UInt8 → Option (List Char)
  | [] => some []
  | b :: rest =>
    let n := b.toNat
    if n < 0x80 then (decodeUtf8 surrogates rest).map (Char.ofNat n :: ·)
    else if n < 0xC2 then none
    else if n < 0xE0 then
      match rest with
      | c1 :: more =>
        if isContinuation c1 then
          (decodeUtf8 surrogates more).map (Char.ofNat ((n % 32) * 64 + c1.toNat % 64) :: ·)
        else none
      | [] => none
    else if n < 0xF0 then
      match rest with
      | c1 :: c2 :: more =>
        if isContinuation c1 && isContinuation c2 then
          let cp := (n % 16) * 4096 + (c1.toNat % 64) * 64 + c2.toNat % 64
          if cp < 0x800 then none
          else if 0xD800 ≤ cp && cp < 0xE000 && !surrogates then none
          else (decodeUtf8 surrogates more).map (charOfScalar cp :: ·)
        else none
      | _ => none
    else if n < 0xF5 then
      match rest with
      | c1 :: c2 :: c3 :: more =>
        if isContinuation c1 && isContinuation c2 && isContinuation c3 then
          let cp := (n % 8) * 262144 + (c1.toNat % 64) * 4096 + (c2.toNat % 64) * 64 + c3.toNat % 64
          if cp < 0x10000 || cp > 0x10FFFF then none
          else (decodeUtf8 surrogates more).map (Char.ofNat cp :: ·)
        else none
      | _ => none
    else none

/-- The number of continuation bytes a UTF-8 lead byte calls for; none for a byte that leads no
sequence. -/
def continuationCount (lead : Nat) : Nat :=
  if 0xC2 ≤ lead && lead < 0xE0 then 1
  else if 0xE0 ≤ lead && lead < 0xF0 then 2
  else if 0xF0 ≤ lead && lead < 0xF5 then 3
  else 0

/-- The bounds of the byte after a lead byte, narrowed so that no overlong form, surrogate or code
point above U+10FFFF can be encoded. -/
def secondBounds (lead : Nat) : Nat × Nat :=
  if lead == 0xE0 then (0xA0, 0xBF)
  else if lead == 0xED then (0x80, 0x9F)
  else if lead == 0xF0 then (0x90, 0xBF)
  else if lead == 0xF4 then (0x80, 0x8F)
  else (0x80, 0xBF)

/-- How many of the bytes after a lead byte continue its sequence well, counted from the first. -/
def wellContinued (lead : Nat) (bytes : List UInt8) : Nat :=
  match bytes with
  | [] => 0
  | b :: rest =>
    let (lo, hi) := secondBounds lead
    if lo ≤ b.toNat && b.toNat ≤ hi then 1 + (rest.takeWhile isContinuation).length else 0

/-- The code point of a lead byte and its continuation bytes. -/
def scalarOf (lead : Nat) (more : List UInt8) : Nat :=
  let first := if lead < 0xE0 then lead % 32 else if lead < 0xF0 then lead % 16 else lead % 8
  more.foldl (fun acc b => acc * 64 + b.toNat % 64) first

/-- Decodes UTF-8 bytes, each maximal part that is no well-formed sequence replaced by U+FFFD:
a lead byte with the bytes that continue it well so far, or a byte that leads nothing. The fuel is
the number of bytes, since each step takes at least one. -/
def decodeUtf8Lossy (bytes : List UInt8) : List Char :=
  go bytes bytes.length
where
  go : List UInt8 → Nat → List Char
    | [], _ => []
    | _, 0 => []
    | b :: rest, fuel + 1 =>
      let n := b.toNat
      if n < 0x80 then Char.ofNat n :: go rest fuel
      else
        let need := continuationCount n
        let more := rest.take need
        let good := wellContinued n more
        if need > 0 && good == need then Char.ofNat (scalarOf n more) :: go (rest.drop need) fuel
        else '\uFFFD' :: go (rest.drop good) fuel

/-- Decodes UTF-8 strictly into a text. -/
def utf8Text? (bytes : List UInt8) : Option String :=
  (decodeUtf8 false bytes).map String.ofList

/-- Groups bytes into units of `width` bytes, read little- or big-endian; `none` if bytes are
left over. -/
def units (width : Nat) (bigEndian : Bool) (bytes : List UInt8) : Option (List Nat) :=
  go bytes bytes.length
where
  go : List UInt8 → Nat → Option (List Nat)
    | [], _ => some []
    | _, 0 => none
    | bs, fuel + 1 =>
      if bs.length < width || width == 0 then none
      else
        let unit := bs.take width
        let ordered := if bigEndian then unit else unit.reverse
        let value := ordered.foldl (fun acc b => acc * 256 + b.toNat) 0
        (go (bs.drop width) fuel).map (value :: ·)

/-- Pairs UTF-16 units into characters. -/
def pairSurrogates : List Nat → List Char
  | [] => []
  | hi :: lo :: rest =>
    if 0xD800 ≤ hi && hi < 0xDC00 && 0xDC00 ≤ lo && lo < 0xE000 then
      Char.ofNat (0x10000 + (hi - 0xD800) * 0x400 + (lo - 0xDC00)) :: pairSurrogates rest
    else charOfScalar hi :: pairSurrogates (lo :: rest)
  | [u] => [charOfScalar u]

/-- Decodes UTF-16 in the given byte order. -/
def decodeUtf16 (bigEndian : Bool) (bytes : List UInt8) : Option (List Char) :=
  (units 2 bigEndian bytes).map pairSurrogates

/-- Decodes UTF-32 in the given byte order; a unit above U+10FFFF is refused. -/
def decodeUtf32 (bigEndian : Bool) (bytes : List UInt8) : Option (List Char) := do
  let us ← units 4 bigEndian bytes
  if us.any (· > 0x10FFFF) then none else some (us.map charOfScalar)

end Text

end Bazaar
