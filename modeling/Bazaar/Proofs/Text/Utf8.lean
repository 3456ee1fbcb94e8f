import Mathlib
import Bazaar.Text.Unicode

/-!
# Decoding UTF-8 and encoding it again

Strict UTF-8 decoding reads each character from a lead byte and its continuation bytes, and the
encoder writes each character back as those same bytes: the lead byte keeps its high bits and the
code point's top bits, each continuation byte `10` and six more bits. So a body that decodes as
text is given back, byte for byte, when the text is encoded: `Text.utf8Bytes_of_decoded`.
`Text.utf8Bytes` encodes character by character, so that concrete bodies evaluate;
`Text.utf8Bytes_eq_toUTF8` says that it gives the bytes of Lean's own encoder.
-/

namespace Bazaar

namespace Text

/-! ## The bytes of a text -/

theorem toList_loop (bs : ByteArray) (i : Nat) (r : List UInt8) :
    ByteArray.toList.loop bs i r = r.reverse ++ bs.data.toList.drop i := by
  fun_induction ByteArray.toList.loop bs i r with
  | case1 i r lt ih =>
    have inData : i < bs.data.toList.length := by rw [Array.length_toList]; exact lt
    rw [ih, List.drop_eq_getElem_cons inData, List.reverse_cons, List.append_assoc,
      List.singleton_append]
    obtain ⟨data⟩ := bs
    simp only [ByteArray.get!, Array.getElem_toList]
    rw [getElem!_pos data i lt]
  | case2 i r ge =>
    have past : bs.data.toList.length ≤ i := by
      rw [Array.length_toList]; exact Nat.le_of_not_lt ge
    rw [List.drop_eq_nil_of_le past, List.append_nil]

theorem toList_toByteArray (l : List UInt8) : l.toByteArray.toList = l := by
  rw [ByteArray.toList, toList_loop, List.reverse_nil, List.nil_append, List.drop_zero,
    List.toList_data_toByteArray]

/-- Encoding a text character by character gives the bytes of Lean's own UTF-8 encoding. -/
theorem utf8Bytes_eq_toUTF8 (s : String) : utf8Bytes s = s.toUTF8.toList := by
  rw [utf8Bytes, String.toUTF8_eq_toByteArray, ← String.utf8Encode_toList, List.utf8Encode,
    toList_toByteArray]

theorem utf8Bytes_append (s t : String) : utf8Bytes (s ++ t) = utf8Bytes s ++ utf8Bytes t := by
  simp only [utf8Bytes, String.toList_append, List.flatMap_append]

/-! ## One character for each width -/

theorem toNat_ofNat_of_valid {n : Nat} (valid : n.isValidChar) : (Char.ofNat n).toNat = n := by
  simp only [Char.ofNat, dif_pos valid]
  rfl

theorem ofNat_eq_of_toNat {x : Nat} {b : UInt8} (h : x = b.toNat) : UInt8.ofNat x = b := by
  rw [h, UInt8.ofNat_toNat]

theorem utf8EncodeChar_one {b : UInt8} (ascii : b.toNat < 0x80) :
    String.utf8EncodeChar (Char.ofNat b.toNat) = [b] := by
  have valid : b.toNat.isValidChar := by unfold Nat.isValidChar; omega
  simp only [String.utf8EncodeChar, Char.toNat_val, toNat_ofNat_of_valid valid]
  rw [if_pos (by omega), UInt8.ofNat_toNat]

theorem utf8EncodeChar_two {b c1 : UInt8} (lead : 0xC2 ≤ b.toNat) (lead' : b.toNat < 0xE0)
    (cont : isContinuation c1 = true) :
    String.utf8EncodeChar (Char.ofNat (b.toNat % 32 * 64 + c1.toNat % 64)) = [b, c1] := by
  have cont' : c1.toNat / 64 = 2 := by simpa [isContinuation] using cont
  have valid : (b.toNat % 32 * 64 + c1.toNat % 64).isValidChar := by
    unfold Nat.isValidChar; omega
  simp only [String.utf8EncodeChar, Char.toNat_val, toNat_ofNat_of_valid valid]
  rw [if_neg (by omega), if_pos (by omega)]
  simp only [List.cons.injEq]
  exact ⟨ofNat_eq_of_toNat (by omega), ofNat_eq_of_toNat (by omega), trivial⟩

/-- A three-byte sequence decodes to a code point from U+0800 that is no surrogate, so the
decoder's character is that code point and it is written back in three bytes. -/
theorem utf8EncodeChar_three {b c1 c2 : UInt8} {cp : Nat} (lead : 0xE0 ≤ b.toNat)
    (lead' : b.toNat < 0xF0) (cont : (isContinuation c1 && isContinuation c2) = true)
    (scalar : cp = b.toNat % 16 * 4096 + c1.toNat % 64 * 64 + c2.toNat % 64)
    (long : 0x800 ≤ cp) (notSurrogate : cp < 0xD800 ∨ 0xE000 ≤ cp) :
    String.utf8EncodeChar (charOfScalar cp) = [b, c1, c2] := by
  have cont' : c1.toNat / 64 = 2 ∧ c2.toNat / 64 = 2 := by simpa [isContinuation] using cont
  have valid : cp.isValidChar := by unfold Nat.isValidChar; omega
  have ofScalar : charOfScalar cp = Char.ofNat cp := by
    rw [charOfScalar, if_neg (by omega)]
  simp only [ofScalar, String.utf8EncodeChar, Char.toNat_val, toNat_ofNat_of_valid valid]
  rw [if_neg (by omega), if_neg (by omega), if_pos (by omega)]
  simp only [List.cons.injEq]
  exact ⟨ofNat_eq_of_toNat (by omega), ofNat_eq_of_toNat (by omega),
    ofNat_eq_of_toNat (by omega), trivial⟩

theorem utf8EncodeChar_four {b c1 c2 c3 : UInt8} {cp : Nat} (lead : 0xF0 ≤ b.toNat)
    (lead' : b.toNat < 0xF5)
    (cont : (isContinuation c1 && isContinuation c2 && isContinuation c3) = true)
    (scalar : cp = b.toNat % 8 * 262144 + c1.toNat % 64 * 4096 + c2.toNat % 64 * 64 +
      c3.toNat % 64)
    (inPlanes : 0x10000 ≤ cp ∧ cp ≤ 0x10FFFF) :
    String.utf8EncodeChar (Char.ofNat cp) = [b, c1, c2, c3] := by
  have cont' : c1.toNat / 64 = 2 ∧ c2.toNat / 64 = 2 ∧ c3.toNat / 64 = 2 := by
    simpa [isContinuation, and_assoc] using cont
  have valid : cp.isValidChar := by unfold Nat.isValidChar; omega
  simp only [String.utf8EncodeChar, Char.toNat_val, toNat_ofNat_of_valid valid]
  rw [if_neg (by omega), if_neg (by omega), if_neg (by omega)]
  simp only [List.cons.injEq]
  exact ⟨ofNat_eq_of_toNat (by omega), ofNat_eq_of_toNat (by omega),
    ofNat_eq_of_toNat (by omega), ofNat_eq_of_toNat (by omega), trivial⟩

/-! ## Whole bodies -/

/-- Each character the strict decoder reads is written back as the bytes it was read from. -/
theorem flatMap_of_decodeUtf8 {bytes : List UInt8} {cs : List Char}
    (decoded : decodeUtf8 false bytes = some cs) : cs.flatMap String.utf8EncodeChar = bytes := by
  fun_induction decodeUtf8 false bytes generalizing cs
  -- every refusal contradicts the decoding
  all_goals try (cases decoded; done)
  case case1 => cases decoded; rfl
  case case2 b rest n ascii ih =>
    obtain ⟨tail, decodedTail, rfl⟩ := Option.map_eq_some_iff.1 decoded
    rw [List.flatMap_cons, utf8EncodeChar_one ascii, ih decodedTail]
    rfl
  case case4 b n notOne notLead lead' c1 more cont ih =>
    obtain ⟨tail, decodedTail, rfl⟩ := Option.map_eq_some_iff.1 decoded
    rw [List.flatMap_cons, utf8EncodeChar_two (by omega) lead' cont, ih decodedTail]
    rfl
  case case9 b n notOne notLead notTwo lead' c1 c2 more cont cp short surrogate ih =>
    obtain ⟨tail, decodedTail, rfl⟩ := Option.map_eq_some_iff.1 decoded
    have notSurrogate : cp < 0xD800 ∨ 0xE000 ≤ cp := by
      simp only [Bool.not_false, Bool.and_true, Bool.and_eq_true, decide_eq_true_eq] at surrogate
      omega
    rw [List.flatMap_cons,
      utf8EncodeChar_three (by omega) lead' cont rfl (by omega) notSurrogate, ih decodedTail]
    rfl
  case case13 b n notOne notLead notTwo notThree lead' c1 c2 c3 more cont cp outside ih =>
    obtain ⟨tail, decodedTail, rfl⟩ := Option.map_eq_some_iff.1 decoded
    have inPlanes : 0x10000 ≤ cp ∧ cp ≤ 0x10FFFF := by
      simp only [Bool.or_eq_true, decide_eq_true_eq, not_or] at outside
      omega
    rw [List.flatMap_cons, utf8EncodeChar_four (by omega) lead' cont rfl inPlanes,
      ih decodedTail]
    rfl

/-- Bytes that decode as UTF-8 text are the UTF-8 bytes of that text. -/
theorem utf8Bytes_of_decoded {bytes : List UInt8} {s : String} (decoded : utf8Text? bytes = some s) :
    utf8Bytes s = bytes := by
  obtain ⟨cs, decodedChars, rfl⟩ := Option.map_eq_some_iff.1 decoded
  rw [utf8Bytes, String.toList_ofList, flatMap_of_decodeUtf8 decodedChars]

end Text

end Bazaar
