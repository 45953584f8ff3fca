import GhostArk.ReceiptSchema.CanonicalSerializer
import GhostArk.EnforcementRuntime.Receipts.Verifier
import GhostArk.Verifiers.NodeV2

/-!
Contract: decision receipts in `verifiers/node/ghost_receipt_verify.mjs`.

Owns the standalone verifier of first-layer receipts with its checks and their
details: canonical text, the field contract with its defaults, strict decoding of
signature envelopes, key and tenant expectations, and the verdict.

Does not own: receipt records, or RSA-PSS, which is a function of its inputs here.

Field and key patterns that the program copies from the library are the library's.
Details that quote a value with `JSON.stringify` are exact for JSON values.
-/

namespace GhostArk.Verifiers.NodeDecision

open Js ReceiptSchema EnforcementRuntime.Aws
open EnforcementRuntime.Receipts
open EnforcementRuntime.Receipts.V2 (isText)
open Verifiers.NodeV2 (Check without)

/-- Host functions of the verifier. -/
structure NodeRuntime extends Signer.VerifierRuntime where
  verifyRsaPssDigest : (publicKeyPem : JsString) → (digest signature : List Nat) →
    (pssMode : JsString) → Except JsError Bool

def REPORT_SCHEMA_VERSION : JsString := js "ghost.node_independent_verifier_report.v1"

def DECISION_SCHEMA_VERSION : JsString := js "ghost.receipt.v1"

def ENVELOPE_SCHEMA_VERSION : JsString := js "ghost.decision_receipt_signature.v1"

def HMAC_ALGORITHM : JsString := js "LOCAL_HMAC_SHA256_DEV_ONLY"

def KMS_ALGORITHM : JsString := js "KMS_SIGN_RSASSA_PSS_SHA_256"

def PSS_MODE_MESSAGE : JsString := js "digest-as-message"

def PSS_MODE_MHASH : JsString := js "digest-as-mhash"

def NON_CLAIM : JsString :=
  js "A PASS verdict proves internal receipt consistency under this standalone verifier's documented rules. " ++
    js "It does not prove model safety, semantic truth, compliance, production readiness, AWS execution, KMS custody, " ++
    js "runtime integrity, or resistance to all attacks."

def DECISION_REQUIRED_FIELDS : List ReceiptField :=
  [.schema_version, .receipt_id, .request_id, .tenant_id_hash, .user_id_hash, .session_id_hash,
    .timestamp, .model_id, .policy_version, .policy_hash, .input_digest, .execution_context_hash,
    .execution_nonce, .decision_pre, .decision_post, .risk_score, .consent_state, .memory_written,
    .latency_ms, .cost_estimate_usd, .signature_alg]

def DECISION_DEFAULTS : List (ReceiptField × JsValue) :=
  [(.retrieved_context_digests, .array []), (.action_taken, .array []), (.prev_receipt_hash, .null)]

def DECISION_ALL_FIELDS : List ReceiptField :=
  DECISION_REQUIRED_FIELDS ++ DECISION_DEFAULTS.map Prod.fst ++ [.receipt_signature]

def DECISION_KINDS : List JsString :=
  [js "ALLOW", js "ALLOW_WITH_CONSTRAINTS", js "REDACT", js "REFUSE", js "ESCALATE"]

def CONSENT_STATES : List JsString :=
  [js "granted", js "denied", js "missing", js "not_required"]

def SIGNATURE_ALGORITHMS : List JsString := [HMAC_ALGORITHM, KMS_ALGORITHM]

def PSS_MODES : List JsString := [PSS_MODE_MESSAGE, PSS_MODE_MHASH]

def ENVELOPE_FIELDS : List JsString :=
  [js "algorithm", js "digestSha256", js "keyId", js "schemaVersion", js "signature"]

/-- `check(name, passed, detail)`. -/
def check (name : String) (passed : Bool) (detail : JsString) : Check := ⟨js name, passed, detail⟩

section Canonical

variable (numbers : NumberText)

def unsupportedType (name : String) : JsError :=
  typeError (js "Canonical JSON does not support " ++ js name ++ js " values.")

mutual

def canonicalize : JsValue → Except JsError JsString
  | .undefined => .error (typeError (js "Canonical JSON cannot encode undefined values."))
  | .hole => .error (typeError (js "Canonical JSON cannot encode undefined values."))
  | .null => .ok (js "null")
  | .string value => .ok (quote value)
  | .bool true => .ok (js "true")
  | .bool false => .ok (js "false")
  | .number value =>
    if value.isFinite then .ok (numbers.json value)
    else .error (typeError (js "Canonical JSON cannot encode non-finite numbers."))
  | .array items => (canonicalizeItems 0 items).map jsonArray
  | .object entries =>
    (sequenceEntries (sortEntries (canonicalizeEntries entries))).map jsonObject
  | .host .bigint => .error (unsupportedType "bigint")
  | .host .function => .error (unsupportedType "function")
  | .host .symbol => .error (unsupportedType "symbol")
  | .host _ => .error (typeError (js "Canonical JSON accepts plain objects only."))

def canonicalizeItems : Nat → List JsValue → Except JsError (List JsString)
  | _, [] => .ok []
  | index, .hole :: _ =>
    .error (typeError (js "Canonical JSON cannot encode sparse arrays (missing index " ++
      numbers.string (.ofNat index) ++ js ")."))
  | index, item :: rest => do
    let text ← canonicalize item
    return text :: (← canonicalizeItems (index + 1) rest)

def canonicalizeEntries : List (JsString × JsValue) → List (JsString × Except JsError JsString)
  | [] => []
  | (key, value) :: rest => (key, canonicalize value) :: canonicalizeEntries rest

end

private theorem canonicalizeItems_eq_mapM : ∀ (items : List JsValue) (index : Nat),
    (∀ item ∈ items, item.isJson = true) →
      canonicalizeItems numbers index items = items.mapM (canonicalize numbers)
  | [], _, _ => rfl
  | item :: rest, index, shaped => by
    rw [List.forall_mem_cons] at shaped
    have notHole : item = .hole → False := by
      rintro rfl
      cases shaped.1
    rw [canonicalizeItems.eq_3 numbers index item rest notHole, List.mapM_cons,
      canonicalizeItems_eq_mapM rest (index + 1) shaped.2]

private theorem canonicalizeEntries_eq_map (entries : List (JsString × JsValue)) :
    canonicalizeEntries numbers entries =
      entries.map fun entry => (entry.1, canonicalize numbers entry.2) := by
  induction entries with
  | nil => rfl
  | cons entry rest ih =>
    rw [canonicalizeEntries, ih, List.map_cons]

theorem canonicalSerializer : CanonicalSerializer numbers (canonicalize numbers) where
  null := rfl
  bool := by
    intro value
    cases value <;> rfl
  number := by
    intro value finite
    rw [canonicalize, if_pos finite]
  string := fun _ => rfl
  array := by
    intro items shaped
    rw [canonicalize, canonicalizeItems_eq_mapM numbers items 0 shaped]
  object := by
    intro entries _
    rw [canonicalize, canonicalizeEntries_eq_map]

end Canonical

/-! ### Field contract -/

/-- `isIsoUtcTimestamp`, less `Date.parse`:
`/^\d{4}-\d{2}-\d{2}T\d{2}:\d{2}:\d{2}(?:\.\d+)?Z$/`. -/
def isIsoUtcPattern (text : JsString) : Bool :=
  let field (start width : Nat) : Bool := (Date.digitsValue ((text.drop start).take width)).isSome
  field 0 4 && field 5 2 && field 8 2 && field 11 2 && field 14 2 && field 17 2 &&
    [4, 7, 10, 13, 16].map (fun index => text[index]?) ==
      [some (unit '-'), some (unit '-'), some (unit 'T'), some (unit ':'), some (unit ':')] &&
    (text.drop 19 == js "Z" ||
      ((text.drop 19).head? == some (unit '.') && (text.drop 19).getLast? == some (unit 'Z') &&
        (Date.digitsValue ((text.drop 20).dropLast)).isSome))

def isIsoUtcTimestamp (dates : DateParser) (text : JsString) : Bool :=
  isIsoUtcPattern text && (dates.parse text).isFinite

/-- A condition of the field contract, and the error where it is not met. -/
structure Requirement where
  isMet : Bool
  error : JsString

def firstError (requirements : List Requirement) : Option JsString :=
  (requirements.find? fun requirement => !requirement.isMet).map (·.error)

def digestRequirement (filled : ReceiptField → JsValue) (field : ReceiptField) : Requirement :=
  ⟨isText isDigest (filled field), field.text ++ js " must be a sha256: or hmac-sha256: digest."⟩

def textRequirement (filled : ReceiptField → JsValue) (field : ReceiptField) : Requirement :=
  ⟨isText (· != []) (filled field), field.text ++ js " must be a non-empty string."⟩

/-- `Array.isArray(value) && value.every(…)`, which passes over holes. -/
def isTextArray (pattern : JsString → Bool) : JsValue → Bool
  | .array items =>
    items.all fun item =>
      match item with
      | .hole => true
      | item => isText pattern item
  | _ => false

def isNullOrText (pattern : JsString → Bool) : JsValue → Bool
  | .null => true
  | value => isText pattern value

def isUnitInterval : JsValue → Bool
  | .number value => value.isFinite && !value.lt (.ofNat 0) && !(JsNumber.ofNat 1).lt value
  | _ => false

def isNonNegativeFinite : JsValue → Bool
  | .number value => value.isFinite && !value.lt (.ofNat 0)
  | _ => false

def isNonNegativeSafeInteger : JsValue → Bool
  | .number value => value.safeNat?.isSome
  | _ => false

/-- `${JSON.stringify(value)}`. -/
def stringified (numbers : NumberText) : JsValue → JsString
  | .undefined => js "undefined"
  | value => render numbers value

def requirements (numbers : NumberText) (dates : DateParser) (filled : ReceiptField → JsValue) :
    List Requirement :=
  [⟨isText (isTaggedHex64 "grct_") (filled .receipt_id),
      js "receipt_id must match grct_<64 lowercase hex>."⟩] ++
    [.tenant_id_hash, .user_id_hash, .session_id_hash, .input_digest,
      .execution_context_hash].map (digestRequirement filled) ++
    [⟨isText isHex64 (filled .policy_hash),
        js "policy_hash must be 64 lowercase hexadecimal characters."⟩,
      ⟨isText isExecutionNonce (filled .execution_nonce),
        js "execution_nonce must be 8-256 characters of accepted URL-safe text."⟩] ++
    [.request_id, .model_id, .policy_version].map (textRequirement filled) ++
    [⟨isText (isIsoUtcTimestamp dates) (filled .timestamp),
        js "timestamp must be a valid UTC ISO-8601 date-time."⟩,
      ⟨isText DECISION_KINDS.contains (filled .decision_pre) &&
          isText DECISION_KINDS.contains (filled .decision_post),
        js "decision_pre and decision_post must be supported decision kinds."⟩,
      ⟨isText CONSENT_STATES.contains (filled .consent_state),
        js "consent_state must be a supported consent state."⟩,
      ⟨(readBool (filled .memory_written)).isSome, js "memory_written must be a boolean."⟩,
      ⟨isTextArray isDigest (filled .retrieved_context_digests),
        js "retrieved_context_digests must be an array of digest strings."⟩,
      ⟨isTextArray (· != []) (filled .action_taken),
        js "action_taken must be an array of non-empty strings."⟩,
      ⟨isNullOrText isReceiptHash (filled .prev_receipt_hash),
        js "prev_receipt_hash must be null or a sha256: digest."⟩,
      ⟨isUnitInterval (filled .risk_score),
        js "risk_score must be a finite number from 0 through 1."⟩,
      ⟨isNonNegativeSafeInteger (filled .latency_ms),
        js "latency_ms must be a non-negative safe integer."⟩,
      ⟨isNonNegativeFinite (filled .cost_estimate_usd),
        js "cost_estimate_usd must be a non-negative finite number."⟩,
      ⟨isText SIGNATURE_ALGORITHMS.contains (filled .signature_alg),
        js "Unsupported signature_alg " ++ stringified numbers (filled .signature_alg) ++ js "."⟩,
      ⟨isText (· != []) (filled .receipt_signature),
        js "receipt_signature must be a non-empty string."⟩]

abbrev Members := List (JsString × JsValue)

/-- `Object.prototype.hasOwnProperty.call(value, field)`. -/
def hasOwnField (members : Members) (field : ReceiptField) : Bool :=
  (members.map Prod.fst).contains field.text

def unknownFields (members : Members) : List JsString :=
  sortStrings ((members.map Prod.fst).filter fun key =>
    !(DECISION_ALL_FIELDS.map ReceiptField.text).contains key)

def missingFields (members : Members) : List JsString :=
  ((DECISION_REQUIRED_FIELDS ++ [ReceiptField.receipt_signature]).filter fun field =>
    !hasOwnField members field).map ReceiptField.text

def fillDefaults (members : Members) : Members :=
  members ++ (DECISION_DEFAULTS.filter fun entry => !hasOwnField members entry.1).map
    fun entry => (entry.1.text, entry.2)

def validateDecisionReceipt (numbers : NumberText) (dates : DateParser) (value : JsValue) :
    Except JsString Members :=
  match recordEntries value with
  | none => .error (js "Receipt must be a JSON object.")
  | some members =>
    let version := readEntry members .schema_version
    if readString version ≠ some DECISION_SCHEMA_VERSION then
      .error (js "Unsupported schema_version " ++ stringified numbers version ++
        js ". Expected " ++ DECISION_SCHEMA_VERSION ++ js ".")
    else if unknownFields members ≠ [] then
      .error (js "Receipt contains unknown fields: " ++ join (js ", ") (unknownFields members) ++
        js ".")
    else if missingFields members ≠ [] then
      .error (js "Receipt is missing required fields: " ++
        join (js ", ") (missingFields members) ++ js ".")
    else
      match firstError (requirements numbers dates (readEntry (fillDefaults members))) with
      | some error => .error error
      | none => .ok (fillDefaults members)

def decodeStrictBase64 (value : JsString) : Except JsError (List Nat) := do
  if value.length = 0 ∨ !Signer.isStandardBase64 value then
    throw (typeError (js "signature must be non-empty canonical standard base64 text."))
  let decoded := Signer.base64Bytes value
  if decoded.length = 0 ∨ Signer.base64 decoded ≠ value then
    throw (typeError (js "signature must decode canonically to non-empty bytes."))
  return decoded

/-- The checks of a decoded envelope up to the comparison with its canonical text. -/
def readEnvelope (envelope : Members) :
    Except JsError Signer.DecisionReceiptSignatureEnvelope := do
  if sortStrings (envelope.map Prod.fst) ≠ ENVELOPE_FIELDS then
    throw (typeError (js "receipt_signature envelope contains an unexpected field set."))
  if readString (Signer.readMember envelope (js "schemaVersion")) ≠
      some ENVELOPE_SCHEMA_VERSION then
    throw (typeError (js "receipt_signature envelope has an unsupported schemaVersion."))
  let some algorithm := readEnum decisionReceiptSignatureAlgorithms SignatureAlgorithm.text
      (Signer.readMember envelope (js "algorithm"))
    | throw (typeError (js "receipt_signature envelope has an unsupported algorithm."))
  let some keyId := (readString (Signer.readMember envelope (js "keyId"))).filter (· != [])
    | throw (typeError (js "receipt_signature envelope keyId must be non-empty."))
  let some digestSha256 :=
      (readString (Signer.readMember envelope (js "digestSha256"))).filter isHex64
    | throw (typeError
        (js "receipt_signature envelope digestSha256 must be a lowercase SHA-256 hex digest."))
  let some signature := readString (Signer.readMember envelope (js "signature"))
    | throw (typeError (js "signature must be non-empty canonical standard base64 text."))
  let _ ← decodeStrictBase64 signature
  return { keyId, algorithm, digestSha256, signature }

def decodeDecisionEnvelope (numbers : NumberText) (encoded : JsString) :
    Except JsError Signer.DecisionReceiptSignatureEnvelope := do
  if !Signer.isBase64UrlText encoded ∨ encoded.length % 4 = 1 then
    throw (typeError (js "receipt_signature must be unpadded base64url text."))
  let bytes := Signer.base64Bytes encoded
  if Signer.base64Url bytes ≠ encoded then
    throw (typeError (js "receipt_signature must use canonical unpadded base64url encoding."))
  let some decoded := decodeUtf8Fatal bytes
    | throw (typeError (js "receipt_signature must decode to UTF-8 JSON."))
  let some parsed := parse numbers decoded
    | throw (typeError
        (js "receipt_signature must be a base64url-encoded JSON signature envelope."))
  let some members := recordEntries parsed
    | throw (typeError (js "receipt_signature envelope must decode to an object."))
  let envelope ← readEnvelope members
  if (← canonicalize numbers parsed) ≠ decoded then
    throw (typeError
      (js "receipt_signature envelope JSON must use the canonical field order and encoding."))
  return envelope

/-! ### Checks -/

inductive Verdict where
  | PASS
  | FAIL
deriving DecidableEq, Repr

structure Recomputed where
  receipt_id : JsString
  digest_sha256 : JsString
  canonical_payload_sha256 : JsString
deriving DecidableEq, Repr

structure Report where
  schema_version : JsString
  verifier : JsString
  verdict : Verdict
  checks : List Check
  limitations : List JsString
  pss_mode : JsString
  non_claim : JsString
  recomputed : Option Recomputed
deriving DecidableEq, Repr

structure VerificationOptions where
  expectedKeyId : Option JsString
  hmacSecret : Option JsString
  publicKeyPem : Option JsString
  tenant : Option JsString
  identityHmacSecret : Option JsString
  expectedTenantIdHash : Option JsString
  pssMode : Option JsString

/-- An option that is set and truthy. -/
def truthy (option : Option JsString) : Option JsString := option.filter (· != [])

def buildReport (checks : List Check) (limitations : List JsString) (pssMode : JsString)
    (recomputed : Option Recomputed) : Report where
  schema_version := REPORT_SCHEMA_VERSION
  verifier := js "verifiers/node/ghost_receipt_verify.mjs"
  verdict := if checks.length > 0 ∧ checks.all (·.passed) then .PASS else .FAIL
  checks := checks
  limitations := limitations
  pss_mode := pssMode
  non_claim := NON_CLAIM
  recomputed := recomputed

section Checks

variable (runtime : NodeRuntime)

def constantTimeTextEqual (left right : JsString) : Bool := utf8 left == utf8 right

def tenantExpectationCheck (observedTenantHash : JsString) (options : VerificationOptions) :
    List Check :=
  let compared (expected : JsString) : Check :=
    let passed := isDigest expected && constantTimeTextEqual expected observedTenantHash
    check "tenant_expectation" passed
      (if passed then js "Receipt tenant_id_hash matches the expected tenant commitment."
        else js "Receipt tenant_id_hash does not match the expected tenant commitment.")
  match options.expectedTenantIdHash, options.tenant with
  | none, none => []
  | some expected, _ => [compared expected]
  | none, some tenant =>
    match truthy options.identityHmacSecret with
    | none => [check "tenant_expectation" false
        (js "A decision-receipt tenant expectation requires --identity-hmac-secret or --expected-tenant-id-hash.")]
    | some secret =>
      [compared (js "hmac-sha256:" ++ runtime.hmacSha256.hmacHex secret tenant)]

def receiptIdCheck (receiptId observed : JsString) : Check :=
  check "receipt_id" (receiptId == observed)
    (if receiptId = observed then js "receipt_id recomputes from the canonical unsigned receipt."
      else js "Receipt id mismatch. Expected " ++ receiptId ++ js "; observed " ++ observed ++
        js ".")

def envelopeCheck (algorithm signature_alg : JsString) : Check :=
  if algorithm ≠ signature_alg then
    check "envelope" false (js "Envelope algorithm " ++ algorithm ++
      js " does not match receipt signature_alg " ++ signature_alg ++ js ".")
  else
    check "envelope" true (js "Signature envelope decodes strictly and matches receipt signature_alg.")

def keyIdMismatch (expected observed : JsString) : JsString :=
  js "Signature keyId mismatch. Expected " ++ expected ++ js "; observed " ++ observed ++ js "."

def keyIdCheck (signature_alg keyId : JsString) (expectedKeyId : Option JsString) : Check :=
  if signature_alg = KMS_ALGORITHM then
    if !isImmutableKmsKeyId keyId then
      check "key_id" false (js "Signature keyId must be an immutable KMS key ARN or key UUID.")
    else
      match (truthy expectedKeyId).filter fun expected => !immutableKmsKeyIdsMatch keyId expected with
      | some expected => check "key_id" false (keyIdMismatch expected keyId)
      | none =>
        check "key_id" true
          (js "Signature keyId " ++ keyId ++ js " is an immutable KMS key identity.")
  else
    match (truthy expectedKeyId).filter fun expected => keyId != expected with
    | some expected => check "key_id" false (keyIdMismatch expected keyId)
    | none => check "key_id" (0 < keyId.length) (js "Signature keyId " ++ keyId ++ js " is present.")

def digestCheck (observed digestSha256 : JsString) : Check :=
  check "digest" (observed == digestSha256)
    (if observed = digestSha256 then
      js "Envelope digestSha256 equals the recomputed canonical unsigned receipt digest."
    else js "Digest mismatch. Expected " ++ digestSha256 ++ js "; observed " ++ observed ++ js ".")

def hmacCheck (secret canonicalPayload signature : JsString) : Check :=
  let expected := Signer.hexBytes (runtime.hmacSha256.hmacHex secret canonicalPayload)
  let passed := (decodeStrictBase64 signature).toOption == some expected
  check "signature" passed
    (if passed then js "Dev-only HMAC signature verifies over the canonical unsigned receipt."
      else js "Dev-only HMAC signature does not verify over the canonical unsigned receipt.")

def rsaPssCheck (publicKeyPem digestSha256 signature pssMode : JsString) : Check :=
  let outcome := do
    let decoded ← decodeStrictBase64 signature
    runtime.verifyRsaPssDigest publicKeyPem (Signer.hexBytes digestSha256) decoded pssMode
  match outcome with
  | .ok passed =>
    check "signature" passed
      (js "RSA-PSS SHA-256 signature " ++
        (if passed then js "verifies" else js "does not verify") ++
        js " with the supplied public key (" ++ pssMode ++ js ").")
  | .error error => check "signature" false error.message

def signatureCheck (checks : List Check) (signature_alg canonicalPayload digestSha256 : JsString)
    (signature : JsString) (options : VerificationOptions) (pssMode : JsString) : Check :=
  if !checks.all (·.passed) then
    check "signature" false
      (js "Signature verification skipped because an earlier receipt check failed.")
  else if signature_alg = HMAC_ALGORITHM then
    match truthy options.hmacSecret with
    | none =>
      check "signature" false
        (js "Pass the published dev-only test vector with --hmac-secret. Failing closed.")
    | some secret => hmacCheck runtime secret canonicalPayload signature
  else
    match truthy options.publicKeyPem with
    | none =>
      check "signature" false
        (js "A public key is required for KMS-algorithm receipt verification. Failing closed.")
    | some publicKeyPem => rsaPssCheck runtime publicKeyPem digestSha256 signature pssMode

def fieldText (filled : Members) (field : ReceiptField) : JsString :=
  (readString (readEntry filled field)).getD []

/-- The canonical texts of the receipt without its signature, and without its id too. -/
def canonicalTexts (filled : Members) : Except JsError (JsString × JsString) := do
  let unsigned := without ReceiptField.receipt_signature.text filled
  let canonicalPayload ← canonicalize runtime.numbers (.object unsigned)
  let canonicalIdentity ←
    canonicalize runtime.numbers (.object (without ReceiptField.receipt_id.text unsigned))
  return (canonicalPayload, canonicalIdentity)

def receiptChecks (filled : Members) (canonicalPayload receiptId digestSha256 : JsString)
    (options : VerificationOptions) (pssMode : JsString) : List Check :=
  let opening := [
    check "schema" true (js "Receipt matches the strict ghost.receipt.v1 field contract."),
    check "canonical_payload" true (js "Unsigned receipt canonicalization completed."),
    receiptIdCheck receiptId (fieldText filled .receipt_id)]
  let tenantCheck := tenantExpectationCheck runtime (fieldText filled .tenant_id_hash) options
  let signature_alg := fieldText filled .signature_alg
  match decodeDecisionEnvelope runtime.numbers (fieldText filled .receipt_signature) with
  | .error error =>
    opening ++ [check "envelope" false error.message,
      check "signature" false
        (js "Signature verification skipped because envelope decoding failed.")] ++ tenantCheck
  | .ok envelope =>
    let checks := opening ++ [envelopeCheck envelope.algorithm.text signature_alg,
      keyIdCheck signature_alg envelope.keyId options.expectedKeyId,
      digestCheck envelope.digestSha256 digestSha256]
    checks ++ [signatureCheck runtime checks signature_alg canonicalPayload digestSha256
      envelope.signature options pssMode] ++ tenantCheck

def limitations (pssMode : JsString) : List JsString :=
  [js "No key-manifest, chain, checkpoint, attestation, or ledger-completeness checks.",
    js "Dev-only HMAC verification requires an explicitly supplied published test vector.",
    js "RSA-PSS verification establishes public-key/signature consistency, not AWS KMS custody or provenance.",
    js "RSA-PSS digest treatment: " ++ pssMode ++ js "."]

def verifyDecisionReceipt (receipt : JsValue) (options : VerificationOptions) : Report :=
  let pssMode := options.pssMode.getD PSS_MODE_MESSAGE
  let report (checks : List Check) : Option Recomputed → Report :=
    buildReport checks (limitations pssMode) pssMode
  if !PSS_MODES.contains pssMode then
    report [check "configuration" false
      (js "Unsupported RSA-PSS digest treatment " ++ quote pssMode ++ js ".")] none
  else
    match validateDecisionReceipt runtime.numbers runtime.dates receipt with
    | .error error => report [check "schema" false error] none
    | .ok filled =>
      match canonicalTexts runtime filled with
      | .error error =>
        report [
          check "schema" true (js "Receipt matches the strict ghost.receipt.v1 field contract."),
          check "canonical_payload" false error.message] none
      | .ok (canonicalPayload, canonicalIdentity) =>
        let digestSha256 := runtime.sha256.sha256Hex canonicalPayload
        let receiptId := js "grct_" ++ runtime.sha256.sha256Hex canonicalIdentity
        report (receiptChecks runtime filled canonicalPayload receiptId digestSha256 options
          pssMode) (some ⟨receiptId, digestSha256, digestSha256⟩)

end Checks

end GhostArk.Verifiers.NodeDecision
