import GhostArk.EnforcementRuntime.Receipts.Verifier

/-!
Contract: the texts of one signature envelope.

Owns when a base64url text is the one that its bytes are encoded as, when an accepted signature text
is written as `encodeDecisionReceiptSignatureEnvelope` writes it, and that exactly these texts are
encoded back to themselves. Owns that an encoded envelope is decoded to itself, and that the parser
of the verifier reads from an accepted text what the decoder reads.

Does not own: what is accepted. The decoder skips the spare bits of base64url and reads any JSON
text of the object, whatever its blanks, its order of keys, its escapes and its repeated keys.
-/

namespace GhostArk.EnforcementRuntime.Receipts.Signer

open Js ReceiptSchema

/-! ### Spare bits -/

/-- The groups fill whole bytes, and the bits left over are zero. -/
def spareBitsAreZero : List Nat → Bool
  | _ :: _ :: _ :: _ :: rest => spareBitsAreZero rest
  | [_, _, s2] => s2 % 4 == 0
  | [_, s1] => s1 % 16 == 0
  | [_] => false
  | [] => true

theorem sextets_sextetBytes_iff {groups : List Nat} (bounded : ∀ bits ∈ groups, bits < 64) :
    sextets (sextetBytes groups) = groups ↔ spareBitsAreZero groups = true := by
  fun_induction spareBitsAreZero groups with
  | case1 s0 s1 s2 s3 rest ih =>
    simp only [List.forall_mem_cons] at bounded
    have same : (s0 * 4 + s1 / 16) / 4 = s0 ∧
        (s0 * 4 + s1 / 16) % 4 * 16 + (s1 % 16 * 16 + s2 / 4) / 16 = s1 ∧
        (s1 % 16 * 16 + s2 / 4) % 16 * 4 + (s2 % 4 * 64 + s3) / 64 = s2 ∧
        (s2 % 4 * 64 + s3) % 64 = s3 := by
      omega
    rw [sextetBytes, sextets, same.1, same.2.1, same.2.2.1, same.2.2.2,
      ← ih bounded.2.2.2.2]
    simp only [List.cons.injEq, true_and]
  | case2 s0 s1 s2 =>
    simp only [List.forall_mem_cons] at bounded
    simp only [sextetBytes, sextets, List.cons.injEq, and_true, beq_iff_eq]
    omega
  | case3 s0 s1 =>
    simp only [List.forall_mem_cons] at bounded
    simp only [sextetBytes, sextets, List.cons.injEq, and_true, beq_iff_eq]
    omega
  | case4 s0 => simp [sextetBytes, sextets]
  | case5 => simp [sextetBytes, sextets]

private theorem ofNat_eq {codeUnit : CodeUnit} {code : Nat} (same : code = codeUnit.val) :
    Fin.ofNat 65536 code = codeUnit := by
  apply Fin.ext
  rw [same]
  exact Nat.mod_eq_of_lt codeUnit.isLt

private theorem base64UrlDigit_of_value {codeUnit : CodeUnit}
    (isUrl : isAlphanumeric codeUnit = true ∨ codeUnit = unit '_' ∨ codeUnit = unit '-') :
    ∃ bits, base64Value codeUnit = some bits ∧ base64UrlDigit bits = codeUnit := by
  have upperA : 'A'.toNat = 65 := rfl
  have upperZ : 'Z'.toNat = 90 := rfl
  have lowerA : 'a'.toNat = 97 := rfl
  have lowerZ : 'z'.toNat = 122 := rfl
  have zero : '0'.toNat = 48 := rfl
  have nine : '9'.toNat = 57 := rfl
  rcases isUrl with alphanumeric | underscore | hyphen
  · unfold base64Value base64UrlDigit
    simp only [isAlphanumeric, isDigit, inRange, Bool.or_eq_true, Bool.and_eq_true,
      decide_eq_true_eq, upperA, upperZ, lowerA, lowerZ, zero, nine] at alphanumeric ⊢
    rcases alphanumeric with (upper | lower) | digit
    · refine ⟨codeUnit.val - 65, if_pos upper, ?_⟩
      rw [if_pos (by omega)]
      exact ofNat_eq (by omega)
    · refine ⟨codeUnit.val - 71, ?_, ?_⟩
      · rw [if_neg (by omega), if_pos lower]
      · rw [if_neg (by omega), if_pos (by omega)]
        exact ofNat_eq (by omega)
    · refine ⟨codeUnit.val + 4, ?_, ?_⟩
      · rw [if_neg (by omega), if_neg (by omega), if_pos digit]
      · rw [if_neg (by omega), if_neg (by omega), if_pos (by omega)]
        exact ofNat_eq (by omega)
  · exact ⟨63, underscore ▸ by decide, underscore.symm⟩
  · exact ⟨62, hyphen ▸ by decide, hyphen.symm⟩

theorem map_base64UrlDigit {text : JsString} (isUrl : isBase64UrlText text = true) :
    (text.filterMap base64Value).map base64UrlDigit = text := by
  unfold isBase64UrlText at isUrl
  rw [Bool.and_eq_true, List.all_eq_true] at isUrl
  rcases isUrl with ⟨-, areDigits⟩
  induction text with
  | nil => rfl
  | cons first rest ih =>
    rw [List.forall_mem_cons] at areDigits
    rcases areDigits with ⟨isDigit, areDigits⟩
    simp only [Bool.or_eq_true, beq_iff_eq, or_assoc] at isDigit
    rcases base64UrlDigit_of_value isDigit with ⟨bits, isValue, isFirst⟩
    rw [List.filterMap_cons_some isValue, List.map_cons, isFirst, ih areDigits]

/-- A base64url text is that of its bytes exactly if its spare bits are zero. -/
theorem base64Url_base64Bytes_iff {text : JsString} (isUrl : isBase64UrlText text = true) :
    base64Url (base64Bytes text) = text ↔ spareBitsAreZero (text.filterMap base64Value) = true := by
  have bounded : ∀ bits ∈ text.filterMap base64Value, bits < 64 := by
    intro bits member
    rcases List.mem_filterMap.mp member with ⟨codeUnit, -, isValue⟩
    exact base64Value_lt isValue
  rw [← sextets_sextetBytes_iff bounded, base64Url_eq]
  change (sextets (base64Bytes text)).map base64UrlDigit = text ↔
    sextets (base64Bytes text) = text.filterMap base64Value
  constructor
  · intro same
    have groups := congrArg (List.filterMap base64Value) same
    rwa [filterMap_base64UrlDigit (sextets_bounded (base64Bytes_byte text))] at groups
  · intro same
    rw [same, map_base64UrlDigit isUrl]

/-! ### Canonical envelope texts -/

/-- The JSON text of five strings under the keys of an envelope: without blanks, the keys sorted and
each once, and no escape that `JSON.stringify` does not write. -/
def envelopeText (algorithm digestSha256 keyId schemaVersion signature : JsString) : JsString :=
  js "\x7b\"algorithm\":" ++ quote algorithm ++ js ",\"digestSha256\":" ++ quote digestSha256 ++
    js ",\"keyId\":" ++ quote keyId ++ js ",\"schemaVersion\":" ++ quote schemaVersion ++
    js ",\"signature\":" ++ quote signature ++ js "\x7d"

def envelopeMembers (algorithm digestSha256 keyId schemaVersion signature : JsString) :
    List (JsString × JsValue) :=
  [(js "algorithm", .string algorithm), (js "digestSha256", .string digestSha256),
    (js "keyId", .string keyId), (js "schemaVersion", .string schemaVersion),
    (js "signature", .string signature)]

/-- The accepted text is base64url without spare bits, of the UTF-8 of a canonical envelope text. -/
structure WrittenCanonically (value : JsString) : Prop where
  spareBits : spareBitsAreZero (value.filterMap base64Value) = true
  text : ∃ algorithm digestSha256 keyId schemaVersion signature, base64Bytes value =
    utf8 (envelopeText algorithm digestSha256 keyId schemaVersion signature)

theorem render_envelopeMembers (numbers : NumberText)
    (algorithm digestSha256 keyId schemaVersion signature : JsString) :
    render numbers
        (.object (envelopeMembers algorithm digestSha256 keyId schemaVersion signature)) =
      envelopeText algorithm digestSha256 keyId schemaVersion signature := by
  have algorithmKey : quote (js "algorithm") = js "\"algorithm\"" := by decide
  have digestKey : quote (js "digestSha256") = js "\"digestSha256\"" := by decide
  have keyIdKey : quote (js "keyId") = js "\"keyId\"" := by decide
  have versionKey : quote (js "schemaVersion") = js "\"schemaVersion\"" := by decide
  have signatureKey : quote (js "signature") = js "\"signature\"" := by decide
  change jsonObject [(js "algorithm", quote algorithm), (js "digestSha256", quote digestSha256),
    (js "keyId", quote keyId), (js "schemaVersion", quote schemaVersion),
    (js "signature", quote signature)] = _
  unfold jsonObject envelopeText
  simp only [List.map_cons, List.map_nil, jsonMember, algorithmKey, digestKey, keyIdKey, versionKey,
    signatureKey, join, List.append_assoc]
  rfl

theorem isJson_envelopeMembers (algorithm digestSha256 keyId schemaVersion signature : JsString) :
    (JsValue.object (envelopeMembers algorithm digestSha256 keyId schemaVersion signature)).isJson =
      true := by
  have distinct : envelopeKeys.Nodup := by decide +kernel
  simp only [envelopeMembers, JsValue.isJson, JsValue.entriesAreJson, List.map_cons, List.map_nil]
  exact decide_eq_true distinct

section Decoded

variable {runtime : VerifierRuntime} {envelope : DecisionReceiptSignatureEnvelope}
  {value : JsString}

section Decoded

variable (decoded : decodeDecisionReceiptSignatureEnvelope runtime value = .ok envelope)
include decoded

/-- What decoding an envelope has checked of its text. -/
theorem decoded_eq :
    isBase64UrlText value = true ∧ ∃ members,
      envelopeJson runtime value = some (.object members) ∧ EnvelopeShape members envelope := by
  rw [decodeDecisionReceiptSignatureEnvelope, bind_eq_ok] at decoded
  rcases decoded with ⟨⟨⟩, asserted, decoded⟩
  have isUrl : isBase64UrlText value = true := by
    rw [assertBase64urlEnvelope] at asserted
    rcases check_eq_ok.mp asserted with ⟨-, asserted⟩
    split at asserted
    next => cases asserted
    next isUrl => simpa using isUrl
  split at decoded
  next => cases decoded
  next members isMembers =>
    exact ⟨isUrl, members, isMembers, assertUntypedEnvelopeShape_eq_ok_iff.mp decoded⟩
  next => cases decoded

theorem parseDecisionReceiptSignatureEnvelope_of_decoded :
    ∃ members, parseDecisionReceiptSignatureEnvelope runtime value = .object members ∧
      readMember members (js "keyId") = .string envelope.keyId ∧
      readMember members (js "digestSha256") = .string envelope.digestSha256 ∧
      readMember members (js "signature") = .string envelope.signature := by
  rcases decoded_eq decoded with ⟨-, members, isMembers, shape⟩
  refine ⟨members, ?_, shape.keyId, shape.digestSha256, shape.signature⟩
  rw [parseDecisionReceiptSignatureEnvelope, isMembers, Option.getD_some]

/-- A decoded envelope is encoded as the text of its members in sorted order. -/
theorem encode_decoded :
    encodeDecisionReceiptSignatureEnvelope runtime.toReceiptRuntime envelope =
      .ok (base64Url (utf8 (render runtime.numbers (.object envelope.entries)))) := by
  rcases decoded_eq decoded with ⟨-, members, -, shape⟩
  have digest : assertLowerSha256Hex (js "digestSha256") envelope.digestSha256 = .ok () :=
    assertLowerSha256Hex_eq_ok.mpr shape.digestShape
  have shaped : assertEnvelopeShape envelope = .ok () := by
    rw [assertEnvelopeShape, if_neg (mt List.eq_nil_of_length_eq_zero shape.keyIdNonempty), digest,
      ok_bind, shape.signatureShape]
  rw [encodeDecisionReceiptSignatureEnvelope, shaped, ok_bind,
    canonicalize_of_isJson runtime.numbers (isJson_envelope envelope)]
  rfl

/-- The members of an envelope are read off the text it is encoded as. -/
theorem entries_of_envelopeText {algorithm digestSha256 keyId schemaVersion signature : JsString}
    (isText : base64Bytes value =
      utf8 (envelopeText algorithm digestSha256 keyId schemaVersion signature)) :
    envelope.entries = envelopeMembers algorithm digestSha256 keyId schemaVersion signature := by
  rcases decoded_eq decoded with ⟨-, members, isMembers, shape⟩
  have formed : isWellFormed (envelopeText algorithm digestSha256 keyId schemaVersion signature) =
      true :=
    render_envelopeMembers runtime.numbers _ _ _ _ _ ▸ isWellFormed_render runtime.numbers _
  rw [envelopeJson, isText, decodeUtf8_utf8 formed, ← render_envelopeMembers runtime.numbers,
    parse_render runtime.numbers (isJson_envelopeMembers _ _ _ _ _)] at isMembers
  cases isMembers
  have isAlgorithm : JsValue.string algorithm = .string envelope.algorithm.text := shape.algorithm
  have isDigest : JsValue.string digestSha256 = .string envelope.digestSha256 := shape.digestSha256
  have isKeyId : JsValue.string keyId = .string envelope.keyId := shape.keyId
  have isVersion : JsValue.string schemaVersion = .string signatureEnvelopeSchemaVersion :=
    shape.version
  have isSignature : JsValue.string signature = .string envelope.signature := shape.signature
  rw [envelopeMembers, isAlgorithm, isDigest, isKeyId, isVersion, isSignature]
  rfl

end Decoded

/-- **The single encoding.** An accepted signature text is what its envelope is encoded as exactly
when it is written canonically. -/
theorem encode_decode_iff_writtenCanonically
    (decoded : decodeDecisionReceiptSignatureEnvelope runtime value = .ok envelope) :
    encodeDecisionReceiptSignatureEnvelope runtime.toReceiptRuntime envelope = .ok value ↔
      WrittenCanonically value := by
  have isUrl := (decoded_eq decoded).1
  rw [encode_decoded decoded, Except.ok.injEq]
  constructor
  · intro encoded
    have isText : base64Bytes value = utf8 (render runtime.numbers (.object envelope.entries)) := by
      rw [← encoded, base64Bytes_base64Url fun byte => utf8_byte]
    refine ⟨(base64Url_base64Bytes_iff isUrl).mp (isText ▸ encoded), envelope.algorithm.text,
      envelope.digestSha256, envelope.keyId, signatureEnvelopeSchemaVersion, envelope.signature, ?_⟩
    rw [isText, ← render_envelopeMembers runtime.numbers]
    rfl
  · rintro ⟨spareBits, algorithm, digestSha256, keyId, schemaVersion, signature, isText⟩
    rw [entries_of_envelopeText decoded isText, render_envelopeMembers, ← isText]
    exact (base64Url_base64Bytes_iff isUrl).mpr spareBits

end Decoded

/-- **Envelopes survive encoding.** What an envelope is encoded as is decoded to that envelope, and
from every text that the decoder accepts the parser of the verifier reads the same fields. -/
theorem envelope_survives (runtime : VerifierRuntime) :
    (∀ (envelope : DecisionReceiptSignatureEnvelope) (value : JsString),
      encodeDecisionReceiptSignatureEnvelope runtime.toReceiptRuntime envelope = .ok value →
        decodeDecisionReceiptSignatureEnvelope runtime value = .ok envelope) ∧
    ∀ (value : JsString) (envelope : DecisionReceiptSignatureEnvelope),
      decodeDecisionReceiptSignatureEnvelope runtime value = .ok envelope →
        ∃ members, parseDecisionReceiptSignatureEnvelope runtime value = .object members ∧
          readMember members (js "keyId") = .string envelope.keyId ∧
          readMember members (js "digestSha256") = .string envelope.digestSha256 ∧
          readMember members (js "signature") = .string envelope.signature :=
  ⟨fun _ _ encoded => decodeDecisionReceiptSignatureEnvelope_encoded encoded,
    fun _ _ decoded => parseDecisionReceiptSignatureEnvelope_of_decoded decoded⟩

namespace EnvelopeSample

def runtime : VerifierRuntime where
  toReceiptRuntime := Receipts.Sample.runtime
  syntaxErrorMessage := fun _ => js "Unexpected token"

def envelope : DecisionReceiptSignatureEnvelope where
  keyId := js "dev-key"
  algorithm := .LOCAL_HMAC_SHA256_DEV_ONLY
  digestSha256 := List.replicate 64 (unit '0')
  signature := js "c2lnbmF0dXJl"

def envelopeJsonText : JsString :=
  envelopeText envelope.algorithm.text envelope.digestSha256 envelope.keyId
    signatureEnvelopeSchemaVersion envelope.signature

def canonicalValue : JsString := base64Url (utf8 envelopeJsonText)

def blankValue : JsString := base64Url (utf8 (envelopeJsonText ++ js " "))

private theorem encoded_canonicalValue :
    encodeDecisionReceiptSignatureEnvelope runtime.toReceiptRuntime envelope =
      .ok canonicalValue :=
  eq_ok_of_toOption (by decide +kernel)

theorem canonicalValue_survives :
    decodeDecisionReceiptSignatureEnvelope runtime canonicalValue = .ok envelope ∧
      ∃ members, parseDecisionReceiptSignatureEnvelope runtime canonicalValue = .object members ∧
        readMember members (js "keyId") = .string envelope.keyId ∧
        readMember members (js "digestSha256") = .string envelope.digestSha256 ∧
        readMember members (js "signature") = .string envelope.signature := by
  have decoded : decodeDecisionReceiptSignatureEnvelope runtime canonicalValue = .ok envelope :=
    (envelope_survives runtime).1 envelope canonicalValue encoded_canonicalValue
  exact ⟨decoded, (envelope_survives runtime).2 canonicalValue envelope decoded⟩

theorem canonicalValue_encoded_back :
    decodeDecisionReceiptSignatureEnvelope runtime canonicalValue = .ok envelope ∧
      (encodeDecisionReceiptSignatureEnvelope runtime.toReceiptRuntime envelope =
        .ok canonicalValue ↔ WrittenCanonically canonicalValue) := by
  have decoded : decodeDecisionReceiptSignatureEnvelope runtime canonicalValue = .ok envelope :=
    decodeDecisionReceiptSignatureEnvelope_encoded encoded_canonicalValue
  exact ⟨decoded, encode_decode_iff_writtenCanonically decoded⟩

/-- A blank at the end of the JSON text gives the envelope a second accepted text. -/
theorem blank_accepted :
    ¬ ∀ (value : JsString) (decoded : DecisionReceiptSignatureEnvelope),
      decodeDecisionReceiptSignatureEnvelope runtime value = .ok decoded →
        encodeDecisionReceiptSignatureEnvelope runtime.toReceiptRuntime decoded = .ok value := by
  intro single
  have accepted : (decodeDecisionReceiptSignatureEnvelope runtime blankValue).toBool = true := by
    decide +kernel
  have different : (decodeDecisionReceiptSignatureEnvelope runtime blankValue >>=
      encodeDecisionReceiptSignatureEnvelope runtime.toReceiptRuntime).toOption ≠
        some blankValue := by
    decide +kernel
  rcases exists_eq_ok accepted with ⟨decoded, isDecoded⟩
  rw [isDecoded, ok_bind, single _ _ isDecoded] at different
  exact different rfl

end EnvelopeSample

end GhostArk.EnforcementRuntime.Receipts.Signer
