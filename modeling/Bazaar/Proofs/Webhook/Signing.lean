import Mathlib
import Bazaar.Webhook.Signature
import Bazaar.Proofs.Text.Utf8

/-!
# Signing and verifying webhook bodies

A body is signed by the header `t=<timestamp>,v1=<digest>`, where the digest is the HMAC of the
timestamp, a point and the body's bytes. The verifier decodes the body as UTF-8 and hands the text
to the card processor's library, which encodes it again to compute the digest it expects. The two
agree because decoding UTF-8 and encoding it again gives back the bytes
(`Text.utf8Bytes_of_decoded`), and both write the timestamp the same way.

Main statement: `Webhook.signing_agrees_with_verification`. For every library check that meets the
documented rule `AcceptsSigned`, a body that is UTF-8 text, signed under a secret that encodes at a
timestamp of at most 4300 digits no more than the tolerance before the clock, verifies under that
secret, and a body that is not UTF-8 is refused whatever the header. A timestamp of 4301 digits
cannot be written, so it signs nothing: `Webhook.signing_refuses_a_4301_digit_timestamp`.

`Webhook.documentedCheck` follows the documented rule to the letter: it reads the header back, so
that the rule holds of it once the header's timestamp and digest read back as written.
-/

namespace Bazaar

namespace Text

/-! ## Splitting at one character -/

/-- Two texts joined by a character that neither holds split back into the two. -/
theorem splitOn_around (a b : String) (c : Char) (notInA : c ∉ a.toList) (notInB : c ∉ b.toList) :
    splitOn c (a ++ String.singleton c ++ b) = [a, b] := by
  simp [splitOn, List.splitOn_append_cons_self_of_not_mem notInA, List.splitOn_eq_singleton notInB]

end Text

namespace Literal

/-! ## Integer texts read back -/

theorem foldl_digits (cs : List Char) (allDigits : ∀ c ∈ cs, c.isDigit) (init : Nat) :
    cs.foldl (fun acc c => acc.bind fun n =>
      if c.isDigit then some (10 * n + (c.toNat - '0'.toNat)) else none) (some init) =
      some (Nat.ofDigitChars 10 cs init) := by
  induction cs generalizing init with
  | nil => rfl
  | cons c cs ih =>
    have digit : c.isDigit := allDigits c (by simp)
    rw [List.foldl_cons, Option.bind_some, if_pos digit, Nat.ofDigitChars_cons]
    exact ih (fun c' mem => allDigits c' (by simp [mem])) _

theorem digitsValue?_toDigits (n : Nat) : digitsValue? (Nat.toDigits 10 n) = some n := by
  have allDigits : ∀ c ∈ Nat.toDigits 10 n, c.isDigit :=
    fun c mem => Nat.isDigit_of_mem_toDigits (by decide) (by decide) mem
  rw [digitsValue?, if_neg (by simp [Nat.toDigits_ne_nil]), foldl_digits _ allDigits,
    Nat.ofDigitChars_ten_toDigits]

theorem underscoresBetweenDigits_of_not_mem (cs : List Char) (noUnderscore : '_' ∉ cs) :
    underscoresBetweenDigits cs = true := by
  fun_induction underscoresBetweenDigits cs <;> simp_all

theorem ungroup?_of_not_mem (cs : List Char) (noUnderscore : '_' ∉ cs) :
    ungroup? cs = some cs := by
  simp only [ungroup?, underscoresBetweenDigits_of_not_mem cs noUnderscore, if_true,
    Option.some.injEq, List.filter_eq_self]
  intro c mem
  simp only [bne_iff_ne, ne_eq]
  rintro rfl
  exact noUnderscore mem

theorem dropWhile_blank_of_numeral (cs : List Char) (numeral : ∀ c ∈ cs, c = '-' ∨ c.isDigit) :
    cs.dropWhile isLiteralBlank = cs := by
  cases cs with
  | nil => rfl
  | cons c cs =>
    have notBlank : isLiteralBlank c = false := by
      rcases numeral c (by simp) with rfl | digit
      · decide
      · have bounds := Char.isDigit_iff_toNat.1 digit
        simp only [Char.reduceToNat] at bounds
        simp [isLiteralBlank, Text.isBlank]
        omega
    simp [notBlank]

/-- A text of signs and ASCII digits has no blanks to trim and no digits of other scripts. -/
theorem normalize_of_numeral (s : String) (numeral : ∀ c ∈ s.toList, c = '-' ∨ c.isDigit) :
    normalize s = s.toList := by
  have trimmed : trim s = s.toList := by
    have reversed : ∀ c ∈ s.toList.reverse, c = '-' ∨ c.isDigit :=
      fun c mem => numeral c (by simpa using mem)
    rw [trim, dropWhile_blank_of_numeral _ numeral, dropWhile_blank_of_numeral _ reversed,
      List.reverse_reverse]
  rw [normalize, trimmed]
  conv_rhs => rw [← List.map_id s.toList]
  apply List.map_congr_left
  intro c mem
  rcases numeral c mem with rfl | digit
  · rfl
  · have bounds := Char.isDigit_iff_toNat.1 digit
    simp only [Char.reduceToNat] at bounds
    have inRange : '0' ≤ c ∧ c ≤ '9' := by simpa [Char.isDigit, Char.le_def] using digit
    have value : Text.digitValue? c = some (c.toNat - '0'.toNat) := by
      simp only [Text.digitValue?, if_pos inRange]
    simp only [value, Char.reduceToNat, id_eq]
    rw [Nat.add_sub_cancel' bounds.1, Char.ofNat_toNat]

theorem sign_of_digits (cs : List Char) (allDigits : ∀ c ∈ cs, c.isDigit) :
    sign cs = (false, cs) := by
  unfold sign
  split
  · exact absurd (allDigits '-' (by simp)) (by decide)
  · exact absurd (allDigits '+' (by simp)) (by decide)
  · rfl

/-- The decimal text of an integer, sign first. -/
theorem toList_toString (t : Int) :
    (toString t).toList = (if 0 ≤ t then [] else ['-']) ++ Nat.toDigits 10 t.natAbs := by
  rw [Int.toString_eq_repr, Int.repr_eq_if]
  split
  · simp only [Nat.toList_repr, List.nil_append]
    congr 1
    omega
  · simp only [String.toList_append, Nat.toList_repr]
    congr 2
    omega

theorem numeral_of_mem_toString (t : Int) : ∀ c ∈ (toString t).toList, c = '-' ∨ c.isDigit := by
  intro c mem
  rw [toList_toString, List.mem_append] at mem
  rcases mem with sign | digit
  · left
    split at sign
    · simp at sign
    · simpa using sign
  · exact .inr (Nat.isDigit_of_mem_toDigits (by decide) (by decide) digit)

/-- A character that is neither a sign nor a digit, a separator say, is not in an integer's text. -/
theorem not_mem_toString (t : Int) (c : Char) (notSign : c ≠ '-') (notDigit : c.isDigit = false) :
    c ∉ (toString t).toList := by
  intro mem
  rcases numeral_of_mem_toString t c mem with sign | digit
  · exact notSign sign
  · simp [notDigit] at digit

/-- The decimal text of an integer of at most 4300 digits reads back as that integer. -/
theorem int?_toString (t : Int) (short : (toString t.natAbs).length ≤ 4300) :
    int? (toString t) = some t := by
  have digits : (Nat.toDigits 10 t.natAbs).length ≤ 4300 := by
    rwa [Nat.toString_eq_ofList_toDigits, String.length_ofList] at short
  have allDigits : ∀ c ∈ Nat.toDigits 10 t.natAbs, c.isDigit :=
    fun c mem => Nat.isDigit_of_mem_toDigits (by decide) (by decide) mem
  have noUnderscore := not_mem_toString t '_' (by decide) (by decide)
  rw [int?, normalize_of_numeral _ (numeral_of_mem_toString t), ungroup?_of_not_mem _ noUnderscore,
    toList_toString]
  split
  · next nonneg =>
    simpa [sign_of_digits _ allDigits, digits, digitsValue?_toDigits] using nonneg
  · next negative =>
    simp [sign, digits, digitsValue?_toDigits, abs_of_neg (not_le.1 negative)]

end Literal

namespace Webhook

/-! ## Reading a signed header -/

theorem hexText_isHexDigit (bytes : List UInt8) : ∀ c ∈ (hexText bytes).toList, c.isHexDigit := by
  -- each byte is written as two digits below sixteen
  have small : ∀ n < 16,
      (if n < 10 then Char.ofNat (48 + n) else Char.ofNat (87 + n)).isHexDigit := by
    decide
  intro c mem
  simp only [hexText, String.toList_ofList, List.mem_flatMap, List.mem_cons,
    List.not_mem_nil, or_false] at mem
  obtain ⟨b, -, high | low⟩ := mem
  · rw [high]
    exact small _ (Nat.div_lt_of_lt_mul (by simpa using b.toNat_lt))
  · rw [low]
    exact small _ (Nat.mod_lt _ (by decide))

theorem splitItem_pair (k v : String) (notInK : '=' ∉ k.toList) (notInV : '=' ∉ v.toList) :
    splitItem (k ++ "=" ++ v) = [k, v] := by
  have pieces : Text.splitOn '=' (k ++ "=" ++ v) = [k, v] :=
    Text.splitOn_around k v '=' notInK notInV
  simp [splitItem, pieces]

/-- A header of one timestamp and one digest, neither holding a separator, reads back as the
timestamp's value and that digest. -/
theorem parseHeader_pair (ts d : String) (t : Int) (stamp : Literal.int? ts = some t)
    (commaT : ',' ∉ ts.toList) (equalsT : '=' ∉ ts.toList)
    (commaD : ',' ∉ d.toList) (equalsD : '=' ∉ d.toList) :
    parseHeader ("t=" ++ ts ++ ",v1=" ++ d) = some (t, [d]) := by
  have items : Text.splitOn ',' ("t=" ++ ts ++ ",v1=" ++ d) = ["t=" ++ ts, "v1=" ++ d] := by
    have shape : "t=" ++ ts ++ ",v1=" ++ d =
        "t=" ++ ts ++ String.singleton ',' ++ ("v1=" ++ d) := by
      apply String.ext
      simp
    rw [shape]
    exact Text.splitOn_around ("t=" ++ ts) ("v1=" ++ d) ',' (by simp [commaT]) (by simp [commaD])
  have first : splitItem ("t=" ++ ts) = ["t", ts] := splitItem_pair "t" ts (by decide) equalsT
  have second : splitItem ("v1=" ++ d) = ["v1", d] := splitItem_pair "v1" d (by decide) equalsD
  simp [parseHeader, items, first, second, stamp]

/-- A header written at a timestamp of at most 4300 digits with a hexadecimal digest reads back as
that timestamp and that digest. -/
theorem parseHeader_signed (t : Int) (d : String) (hex : ∀ c ∈ d.toList, c.isHexDigit)
    (short : (toString t.natAbs).length ≤ 4300) :
    parseHeader ("t=" ++ toString t ++ ",v1=" ++ d) = some (t, [d]) := by
  have plain : ∀ sep, sep = ',' ∨ sep = '=' → sep ∉ d.toList := by
    intro sep isSep mem
    have digit := hex sep mem
    rcases isSep with rfl | rfl <;> revert digit <;> decide
  exact parseHeader_pair _ _ t (Literal.int?_toString t short)
    (Literal.not_mem_toString t ',' (by decide) (by decide))
    (Literal.not_mem_toString t '=' (by decide) (by decide))
    (plain ',' (.inl rfl)) (plain '=' (.inr rfl))

/-! ## Writing a signed header -/

theorem stampText_of_short {t : Int} (short : (toString t.natAbs).length ≤ 4300) :
    stampText t = .ok (toString t) := by
  rw [stampText, if_neg (Nat.not_lt.2 short)]

theorem signatureHeader_of_encodable (body : List UInt8) (key : String) (t : Int)
    (encodes : Text.encodable key = true) (short : (toString t.natAbs).length ≤ 4300) :
    signatureHeader body (.str key) t = .ok (header body key (toString t)) := by
  simp [signatureHeader, stampText_of_short short, signedHeader, secretText, encodes, bind,
    Except.bind, pure, Except.pure]

/-- The digest the signer writes of a body's bytes is the one the library expects of the body's
text: the text encodes back to the same bytes. -/
theorem digest_eq_textDigest {body : List UInt8} {payload : String}
    (decoded : Text.utf8Text? body = some payload) (key : String) (t : Int) :
    digest body key (toString t) = textDigest payload key t := by
  rw [digest, textDigest, signedMessage, Text.utf8Bytes_append (toString t ++ ".") payload,
    Text.utf8Bytes_of_decoded decoded]

/-! ## Verifying with a library check -/

/-- A body that is not UTF-8 text is refused before the library sees the header. -/
theorem verifyWith_of_undecodable (check : HeaderCheck) {body : List UInt8} (h : String)
    (secret tolerance : Json) (now : Int) (undecodable : Text.utf8Text? body = none) :
    verifyWith check body h secret tolerance now =
      .error (.webhookSignature "Webhook payload is not valid UTF-8") := by
  rw [verifyWith, undecodable]

theorem verifyWith_of_accepted {check : HeaderCheck} {body : List UInt8} {payload h : String}
    {secret tolerance : Json} {now : Int} (decoded : Text.utf8Text? body = some payload)
    (accepted : check payload h secret tolerance now = .ok ()) :
    verifyWith check body h secret tolerance now = .ok () := by
  rw [verifyWith, decoded]
  simp only [accepted]

/-! ## Signing and verification agree -/

theorem signing_agrees_with_verification (check : HeaderCheck) (accepts : AcceptsSigned check) :
    (∀ (body : List UInt8) (secret : String) (t tolerance now : Int),
      (∃ text, Text.utf8Text? body = some text) → Text.encodable secret = true →
      (toString t.natAbs).length ≤ 4300 → now - t ≤ tolerance →
      ∃ h, signatureHeader body (.str secret) t = .ok h ∧
        verifyWith check body h (.str secret) (.int tolerance) now = .ok ()) ∧
    (∀ (body : List UInt8) (h : String) (secret tolerance : Json) (now : Int),
      Text.utf8Text? body = none →
      verifyWith check body h secret tolerance now =
        .error (.webhookSignature "Webhook payload is not valid UTF-8")) := by
  refine ⟨?signed, ?undecodable⟩
  case signed =>
    rintro body secret t tolerance now ⟨payload, decoded⟩ encodes short recent
    refine ⟨_, signatureHeader_of_encodable body secret t encodes short, ?_⟩
    apply verifyWith_of_accepted decoded
    -- the header the signer writes is the one the rule names, digest for digest
    rw [header, digest_eq_textDigest decoded]
    exact accepts payload secret t tolerance now encodes short recent
  case undecodable =>
    intro body h secret tolerance now undecodable
    exact verifyWith_of_undecodable check h secret tolerance now undecodable

/-- A check that follows the documented rule to the letter: it reads the header's timestamp and
digests, and accepts when one digest is the one expected and the timestamp is no more than the
tolerance before the clock. -/
def documentedCheck : HeaderCheck := fun payload h secret tolerance now =>
  match parseHeader h, secret, tolerance with
  | some (t, sigs), .str key, .int n =>
    if textDigest payload key t ∈ sigs ∧ now - t ≤ n then .ok () else .error .refused
  | _, _, _ => .error .refused

theorem documentedCheck_accepts : AcceptsSigned documentedCheck := by
  intro payload secret t tolerance now _ short recent
  have parsed := parseHeader_signed t (textDigest payload secret t) (hexText_isHexDigit _) short
  simp only [documentedCheck, parsed, List.mem_singleton, recent, and_self, if_true]

/-- The body `{}` signed under the test secret exactly the tolerance of 300 seconds before the
clock verifies under the documented check. -/
theorem test_secret_signature_verifies :
    AcceptsSigned documentedCheck ∧
      ∃ h, signatureHeader [0x7b, 0x7d] (.str "whsec_test_secret") 1794527700 = .ok h ∧
        verifyWith documentedCheck [0x7b, 0x7d] h (.str "whsec_test_secret") (.int 300)
          1794528000 = .ok () :=
  ⟨documentedCheck_accepts,
    (signing_agrees_with_verification documentedCheck documentedCheck_accepts).1 [0x7b, 0x7d]
      "whsec_test_secret" 1794527700 300 1794528000 ⟨"{}", by decide⟩ (by decide)
      (by decide) (by decide)⟩

/-- A timestamp of 4301 digits signs nothing: writing it raises ValueError before the body `x` and
the test secret are looked at. -/
theorem signing_refuses_a_4301_digit_timestamp :
    signatureHeader [0x78] (.str "whsec_test_secret") ((10 ^ 4300 : Nat) : Int) =
      .error .badValue := by
  -- ten to the 4300th is the least number of 4301 digits
  have long : 4300 < (toString ((10 ^ 4300 : Nat) : Int).natAbs).length := by
    rw [Int.natAbs_natCast, Nat.toString_eq_repr]
    exact Nat.lt_of_not_le fun le => Nat.lt_irrefl _ ((Nat.length_repr_le_iff (by decide)).1 le)
  have refused : stampText ((10 ^ 4300 : Nat) : Int) = .error .badValue := by
    rw [stampText, if_pos long]
  rw [signatureHeader, refused]
  rfl

end Webhook

end Bazaar
