import GhostArk.EnforcementRuntime.Receipts.Signer
import GhostArk.Js.Utf8
import GhostArk.Js.Utf8Decoding

/-!
Contract: `packages/enforcement-runtime/src/receipts/signer.ts`, decoding side.

Owns base64 decoding, reading of a signature envelope with the assertions made of
its untyped object, and the round trip: what was encoded is decoded to itself.
-/

namespace GhostArk.EnforcementRuntime.Receipts.Signer

open Js ReceiptSchema

/-! ### Base64 -/

/-- The six bits of a digit of either alphabet. -/
def base64Value (codeUnit : CodeUnit) : Option Nat :=
  if inRange 'A' 'Z' codeUnit then some (codeUnit.val - 65)
  else if inRange 'a' 'z' codeUnit then some (codeUnit.val - 71)
  else if isDigit codeUnit then some (codeUnit.val + 4)
  else if codeUnit == unit '+' || codeUnit == unit '-' then some 62
  else if codeUnit == unit '/' || codeUnit == unit '_' then some 63
  else none

def sextetBytes : List Nat → List Nat
  | s0 :: s1 :: s2 :: s3 :: rest =>
    (s0 * 4 + s1 / 16) :: (s1 % 16 * 16 + s2 / 4) :: (s2 % 4 * 64 + s3) :: sextetBytes rest
  | [s0, s1, s2] => [s0 * 4 + s1 / 16, s1 % 16 * 16 + s2 / 4]
  | [s0, s1] => [s0 * 4 + s1 / 16]
  | _ => []

/-- `Buffer.from(text, "base64url")`. Both alphabets are read, other units are skipped. -/
def base64Bytes (text : JsString) : List Nat := sextetBytes (text.filterMap base64Value)

theorem base64Value_lt {codeUnit : CodeUnit} {bits : Nat}
    (isDigit : base64Value codeUnit = some bits) : bits < 64 := by
  have upperZ : 'Z'.toNat = 90 := rfl
  have lowerZ : 'z'.toNat = 122 := rfl
  have nine : '9'.toNat = 57 := rfl
  unfold base64Value at isDigit
  simp only [Js.isDigit, inRange, Bool.and_eq_true, decide_eq_true_eq, upperZ, lowerZ, nine]
    at isDigit
  repeat' split at isDigit
  all_goals
    first
    | (obtain rfl := Option.some.inj isDigit; omega)
    | cases isDigit

private theorem sextetBytes_byte {groups : List Nat} (bounded : ∀ bits ∈ groups, bits < 64) :
    ∀ byte ∈ sextetBytes groups, byte < 256 := by
  fun_induction sextetBytes groups with
  | case1 s0 s1 s2 s3 rest ih =>
    simp only [List.forall_mem_cons] at bounded ⊢
    refine ⟨?_, ?_, ?_, ih bounded.2.2.2.2⟩ <;> omega
  | case2 s0 s1 s2 =>
    simp only [List.forall_mem_cons] at bounded ⊢
    refine ⟨?_, ?_, by simp⟩ <;> omega
  | case3 s0 s1 =>
    simp only [List.forall_mem_cons] at bounded ⊢
    refine ⟨?_, by simp⟩
    omega
  | case4 => simp

theorem base64Bytes_byte (text : JsString) : ∀ byte ∈ base64Bytes text, byte < 256 := by
  apply sextetBytes_byte
  intro bits member
  rcases List.mem_filterMap.mp member with ⟨codeUnit, -, isDigit⟩
  exact base64Value_lt isDigit

def isBase64UrlText (text : JsString) : Bool :=
  text != [] && text.all fun codeUnit =>
    isAlphanumeric codeUnit || codeUnit == unit '_' || codeUnit == unit '-'

theorem base64Value_base64UrlDigit : ∀ bits < 64,
    base64Value (base64UrlDigit bits) = some bits ∧ isBase64UrlText [base64UrlDigit bits] = true := by
  decide +kernel

def sextets : List Nat → List Nat
  | [] => []
  | [b0] => [b0 / 4, b0 % 4 * 16]
  | [b0, b1] => [b0 / 4, b0 % 4 * 16 + b1 / 16, b1 % 16 * 4]
  | b0 :: b1 :: b2 :: rest =>
    b0 / 4 :: (b0 % 4 * 16 + b1 / 16) :: (b1 % 16 * 4 + b2 / 64) :: b2 % 64 :: sextets rest

theorem base64Url_eq (bytes : List Nat) :
    base64Url bytes = (sextets bytes).map base64UrlDigit := by
  fun_induction sextets bytes with
  | case1 => rfl
  | case2 b0 => rfl
  | case3 b0 b1 => rfl
  | case4 b0 b1 b2 rest ih =>
    rw [base64Url, ih]
    rfl

variable {bytes : List Nat}

theorem sextets_bounded (areBytes : ∀ byte ∈ bytes, byte < 256) :
    ∀ bits ∈ sextets bytes, bits < 64 := by
  fun_induction sextets bytes with
  | case1 => simp
  | case2 b0 =>
    simp only [List.forall_mem_cons] at areBytes ⊢
    refine ⟨?_, ?_, by simp⟩ <;> omega
  | case3 b0 b1 =>
    simp only [List.forall_mem_cons] at areBytes ⊢
    refine ⟨?_, ?_, ?_, by simp⟩ <;> omega
  | case4 b0 b1 b2 rest ih =>
    simp only [List.forall_mem_cons] at areBytes ⊢
    refine ⟨?_, ?_, ?_, ?_, ih areBytes.2.2.2⟩ <;> omega

theorem sextetBytes_sextets (areBytes : ∀ byte ∈ bytes, byte < 256) :
    sextetBytes (sextets bytes) = bytes := by
  fun_induction sextets bytes with
  | case1 => rfl
  | case2 b0 =>
    rw [sextetBytes]
    congr 1
    omega
  | case3 b0 b1 =>
    simp only [List.forall_mem_cons] at areBytes
    rw [sextetBytes]
    congr 1
    · omega
    · congr 1
      omega
  | case4 b0 b1 b2 rest ih =>
    simp only [List.forall_mem_cons] at areBytes
    rw [sextetBytes, ih areBytes.2.2.2]
    congr 1
    · omega
    · congr 1
      · omega
      · congr 1
        omega

theorem filterMap_base64UrlDigit {groups : List Nat} (bounded : ∀ bits ∈ groups, bits < 64) :
    (groups.map base64UrlDigit).filterMap base64Value = groups := by
  induction groups with
  | nil => rfl
  | cons bits rest ih =>
    rw [List.forall_mem_cons] at bounded
    rw [List.map_cons, List.filterMap_cons_some (base64Value_base64UrlDigit bits bounded.1).1,
      ih bounded.2]

theorem base64Bytes_base64Url (areBytes : ∀ byte ∈ bytes, byte < 256) :
    base64Bytes (base64Url bytes) = bytes := by
  rw [base64Bytes, base64Url_eq, filterMap_base64UrlDigit (sextets_bounded areBytes),
    sextetBytes_sextets areBytes]

theorem isBase64UrlText_base64Url (areBytes : ∀ byte ∈ bytes, byte < 256) (nonempty : bytes ≠ []) :
    isBase64UrlText (base64Url bytes) = true := by
  rw [base64Url_eq, isBase64UrlText, Bool.and_eq_true]
  constructor
  · fun_cases sextets bytes with
    | case1 => contradiction
    | case2 => rfl
    | case3 => rfl
    | case4 => rfl
  · rw [List.all_map, List.all_eq_true]
    intro bits member
    have digit := (base64Value_base64UrlDigit bits (sextets_bounded areBytes bits member)).2
    simpa [isBase64UrlText] using digit

/-! ### Reading an envelope -/

def assertBase64urlEnvelope (value : JsString) : Except JsError Unit := do
  if value.length = 0 then
    throw (signingError (js "receipt_signature must be a non-empty string.")
      [(js "field", .string (js "receipt_signature"))])
  if !isBase64UrlText value then
    throw (signingError (js "receipt_signature must be unpadded base64url text.")
      [(js "field", .string (js "receipt_signature"))])

def envelopeKeys : List JsString :=
  [js "algorithm", js "digestSha256", js "keyId", js "schemaVersion", js "signature"]

def assertExactEnvelopeKeys (envelope : List (JsString × JsValue)) : Except JsError Unit :=
  let observed := sortStrings (envelope.map Prod.fst)
  if observed ≠ envelopeKeys then
    .error (signingError (js "receipt_signature envelope contains an unexpected field set.")
      [(js "field", .string (js "receipt_signature")),
        (js "expected", .array (envelopeKeys.map .string)),
        (js "observed", .array (observed.map .string))])
  else .ok ()

/-- `envelope[key]`. -/
def readMember (envelope : List (JsString × JsValue)) (key : JsString) : JsValue :=
  ((envelope.find? fun entry => entry.1 = key).map Prod.snd).getD .undefined

/-- `assertEnvelopeShape` of an untyped object. -/
def assertUntypedEnvelopeShape (envelope : List (JsString × JsValue)) :
    Except JsError DecisionReceiptSignatureEnvelope := do
  assertExactEnvelopeKeys envelope
  if readString (readMember envelope (js "schemaVersion")) ≠ some signatureEnvelopeSchemaVersion then
    throw (signingError (js "receipt_signature envelope has an unsupported schemaVersion.")
      [(js "field", .string (js "schemaVersion")),
        (js "observed", readMember envelope (js "schemaVersion"))])
  let some algorithm := readEnum decisionReceiptSignatureAlgorithms SignatureAlgorithm.text
      (readMember envelope (js "algorithm"))
    | throw (signingError (js "Unsupported decision receipt signature algorithm.")
        [(js "field", .string (js "algorithm")),
          (js "observed", readMember envelope (js "algorithm"))])
  let some keyId := (readString (readMember envelope (js "keyId"))).filter (· != [])
    | throw (signingError (js "receipt_signature envelope keyId must be non-empty.")
        [(js "field", .string (js "keyId"))])
  let some digestSha256 := readString (readMember envelope (js "digestSha256"))
    | throw (signingError (js "receipt_signature envelope digestSha256 must be a string.")
        [(js "field", .string (js "digestSha256"))])
  assertLowerSha256Hex (js "digestSha256") digestSha256
  let some signature := readString (readMember envelope (js "signature"))
    | throw (signingError (js "receipt_signature envelope signature must be a string.")
        [(js "field", .string (js "signature"))])
  assertStandardBase64Signature signature
  return { keyId, algorithm, digestSha256, signature }

/-- What the assertions of a decoded object say of its members. -/
structure EnvelopeShape (members : List (JsString × JsValue))
    (envelope : DecisionReceiptSignatureEnvelope) : Prop where
  keys : sortStrings (members.map Prod.fst) = envelopeKeys
  version : readMember members (js "schemaVersion") = .string signatureEnvelopeSchemaVersion
  algorithm : readMember members (js "algorithm") = .string envelope.algorithm.text
  keyId : readMember members (js "keyId") = .string envelope.keyId
  keyIdNonempty : envelope.keyId ≠ []
  digestSha256 : readMember members (js "digestSha256") = .string envelope.digestSha256
  digestShape : isHex64 envelope.digestSha256 = true
  signature : readMember members (js "signature") = .string envelope.signature
  signatureShape : assertStandardBase64Signature envelope.signature = .ok ()

theorem assertLowerSha256Hex_eq_ok {name value : JsString} {done : Unit} :
    assertLowerSha256Hex name value = .ok done ↔ isHex64 value = true := by
  unfold assertLowerSha256Hex
  split
  next shaped => exact iff_of_true rfl shaped
  next malformed => exact iff_of_false (fun asserted => by cases asserted) malformed

theorem assertUntypedEnvelopeShape_eq_ok_iff {members : List (JsString × JsValue)}
    {envelope : DecisionReceiptSignatureEnvelope} :
    assertUntypedEnvelopeShape members = .ok envelope ↔ EnvelopeShape members envelope := by
  constructor
  · intro asserted
    rw [assertUntypedEnvelopeShape, bind_eq_ok] at asserted
    rcases asserted with ⟨⟨⟩, keysAsserted, asserted⟩
    have keys : sortStrings (members.map Prod.fst) = envelopeKeys := by
      by_contra differs
      rw [assertExactEnvelopeKeys, if_pos differs] at keysAsserted
      cases keysAsserted
    rcases check_eq_ok.mp asserted with ⟨version, asserted⟩
    split at asserted
    next algorithm isAlgorithm =>
      split at asserted
      next keyId isKeyId =>
        split at asserted
        next digestSha256 isDigest =>
          rw [bind_eq_ok] at asserted
          rcases asserted with ⟨⟨⟩, digestShape, asserted⟩
          split at asserted
          next signature isSignature =>
            rw [bind_eq_ok] at asserted
            rcases asserted with ⟨⟨⟩, signatureShape, asserted⟩
            rw [pure_eq_ok] at asserted
            subst asserted
            rcases Option.filter_eq_some_iff.mp isKeyId with ⟨isKeyText, nonempty⟩
            exact {
              keys := keys
              version := readString_eq_some_iff.mp (not_not.mp version)
              algorithm := eq_string_of_readEnum isAlgorithm
              keyId := readString_eq_some_iff.mp isKeyText
              keyIdNonempty := bne_iff_ne.mp nonempty
              digestSha256 := readString_eq_some_iff.mp isDigest
              digestShape := assertLowerSha256Hex_eq_ok.mp digestShape
              signature := readString_eq_some_iff.mp isSignature
              signatureShape := signatureShape }
          next => cases asserted
        next => cases asserted
      next => cases asserted
    next => cases asserted
  · intro shape
    have keys : assertExactEnvelopeKeys members = .ok () := by
      rw [assertExactEnvelopeKeys, if_neg (not_not.mpr shape.keys)]
    have named : (envelope.keyId != []) = true := bne_iff_ne.mpr shape.keyIdNonempty
    have digest : assertLowerSha256Hex (js "digestSha256") envelope.digestSha256 = .ok () :=
      assertLowerSha256Hex_eq_ok.mpr shape.digestShape
    rw [assertUntypedEnvelopeShape, keys, ok_bind, shape.version, shape.algorithm, shape.keyId,
      shape.digestSha256, shape.signature, readEnum_signatureAlgorithm]
    simp only [readString, Option.filter_some, if_pos named, ne_eq, not_true_eq_false, if_false]
    rw [digest, ok_bind, shape.signatureShape]
    rfl

structure VerifierRuntime extends ReceiptRuntime where
  /-- The message of the `SyntaxError` for a text that is not JSON. -/
  syntaxErrorMessage : JsString → JsString

section Decoding

variable (runtime : VerifierRuntime)

/-- `JSON.parse(Buffer.from(value, "base64url").toString("utf8"))`. -/
def envelopeJson (value : JsString) : Option JsValue :=
  parse runtime.numbers (decodeUtf8 (base64Bytes value))

def decodeDecisionReceiptSignatureEnvelope (value : JsString) :
    Except JsError DecisionReceiptSignatureEnvelope := do
  assertBase64urlEnvelope value
  match envelopeJson runtime value with
  | none =>
    throw (signingError
      (js "receipt_signature must be a base64url-encoded JSON signature envelope.")
      [(js "field", .string (js "receipt_signature")),
        (js "cause", .string (runtime.syntaxErrorMessage (decodeUtf8 (base64Bytes value))))])
  | some (.object envelope) => assertUntypedEnvelopeShape envelope
  | some _ =>
    throw (signingError (js "receipt_signature envelope must decode to an object.")
      [(js "field", .string (js "receipt_signature"))])

/-! ### Round trip -/

def DecisionReceiptSignatureEnvelope.entries (envelope : DecisionReceiptSignatureEnvelope) :
    List (JsString × JsValue) :=
  [(js "algorithm", .string envelope.algorithm.text),
    (js "digestSha256", .string envelope.digestSha256),
    (js "keyId", .string envelope.keyId),
    (js "schemaVersion", .string signatureEnvelopeSchemaVersion),
    (js "signature", .string envelope.signature)]

theorem isJson_envelope (envelope : DecisionReceiptSignatureEnvelope) :
    envelope.toJs.isJson = true := by
  have distinct : [js "schemaVersion", js "keyId", js "algorithm", js "digestSha256",
      js "signature"].Nodup := by decide +kernel
  simp only [DecisionReceiptSignatureEnvelope.toJs, JsValue.isJson, JsValue.entriesAreJson,
    List.map_cons, List.map_nil, distinct]
  rfl

private theorem normalForm_envelope (envelope : DecisionReceiptSignatureEnvelope) :
    normalForm envelope.toJs = .object envelope.entries :=
  rfl

theorem isJson_entries (envelope : DecisionReceiptSignatureEnvelope) :
    (JsValue.object envelope.entries).isJson = true :=
  isJson_normalForm (isJson_envelope envelope)

variable {runtime} {envelope : DecisionReceiptSignatureEnvelope} {value : JsString}

theorem encoded_eq
    (encoded : encodeDecisionReceiptSignatureEnvelope runtime.toReceiptRuntime envelope =
      .ok value) :
    assertEnvelopeShape envelope = .ok () ∧
      value = base64Url (utf8 (render runtime.numbers (.object envelope.entries))) := by
  rw [encodeDecisionReceiptSignatureEnvelope, bind_eq_ok] at encoded
  rcases encoded with ⟨⟨⟩, shaped, encoded⟩
  rw [canonicalize_of_isJson runtime.numbers (isJson_envelope envelope), normalForm_envelope,
    ok_bind, pure_eq_ok] at encoded
  exact ⟨shaped, encoded.symm⟩

theorem envelopeJson_encoded
    (encoded : encodeDecisionReceiptSignatureEnvelope runtime.toReceiptRuntime envelope =
      .ok value) : envelopeJson runtime value = some (.object envelope.entries) := by
  rw [(encoded_eq encoded).2, envelopeJson, base64Bytes_base64Url fun byte => utf8_byte,
    decodeUtf8_utf8 (isWellFormed_render _ _)]
  exact parse_render runtime.numbers (isJson_normalForm (isJson_envelope envelope))

private theorem assertUntypedEnvelopeShape_entries
    (shaped : assertEnvelopeShape envelope = .ok ()) :
    assertUntypedEnvelopeShape envelope.entries = .ok envelope := by
  rw [assertEnvelopeShape] at shaped
  rcases check_eq_ok.mp shaped with ⟨named, rest⟩
  rw [bind_eq_ok] at rest
  rcases rest with ⟨⟨⟩, digest, signature⟩
  apply assertUntypedEnvelopeShape_eq_ok_iff.mpr
  exact {
    keys := rfl
    version := rfl
    algorithm := rfl
    keyId := rfl
    keyIdNonempty := fun empty => named (List.length_eq_zero_iff.mpr empty)
    digestSha256 := rfl
    digestShape := assertLowerSha256Hex_eq_ok.mp digest
    signature := rfl
    signatureShape := signature }

section Encoded

variable (encoded :
  encodeDecisionReceiptSignatureEnvelope runtime.toReceiptRuntime envelope = .ok value)
include encoded

theorem envelopeShape_encoded : EnvelopeShape envelope.entries envelope :=
  assertUntypedEnvelopeShape_eq_ok_iff.mp
    (assertUntypedEnvelopeShape_entries (encoded_eq encoded).1)

theorem isBase64UrlText_encoded : isBase64UrlText value = true := by
  rw [(encoded_eq encoded).2]
  apply isBase64UrlText_base64Url fun byte => utf8_byte
  intro empty
  have decoded := decodeUtf8_utf8 (isWellFormed_render runtime.numbers (.object envelope.entries))
  rw [empty, render, jsonObject] at decoded
  cases decoded

theorem decodeDecisionReceiptSignatureEnvelope_encoded :
    decodeDecisionReceiptSignatureEnvelope runtime value = .ok envelope := by
  have isUrlText := isBase64UrlText_encoded encoded
  have nonempty : value.length ≠ 0 := by
    intro empty
    rw [List.length_eq_zero_iff.mp empty] at isUrlText
    cases isUrlText
  have asserted : assertBase64urlEnvelope value = .ok () := by
    rw [assertBase64urlEnvelope, if_neg nonempty, isUrlText]
    rfl
  rw [decodeDecisionReceiptSignatureEnvelope, asserted, ok_bind, envelopeJson_encoded encoded]
  exact assertUntypedEnvelopeShape_entries (encoded_eq encoded).1

end Encoded

end Decoding

end GhostArk.EnforcementRuntime.Receipts.Signer
