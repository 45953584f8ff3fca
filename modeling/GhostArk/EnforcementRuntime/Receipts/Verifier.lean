import GhostArk.EnforcementRuntime.Aws.KmsKeyIdentity
import GhostArk.EnforcementRuntime.Receipts.SignatureEnvelope

/-!
Contract: `packages/enforcement-runtime/src/receipts/verifier.ts`.

Owns the checks of a decision receipt with their details and the verdict over
them, and what the verdict is of a receipt as an emitter signs it.

Verification here is given no key manifest. The verifier's `verifyCanonical` is an
arbitrary function of all that it is passed.
-/

namespace GhostArk.EnforcementRuntime.Receipts

open Js ReceiptSchema Aws

/-! ### Checks -/

structure DecisionReceiptVerificationCheck where
  name : JsString
  passed : Bool
  detail : JsString

structure DecisionReceiptVerificationResult where
  verdict : Bool
  checks : List DecisionReceiptVerificationCheck

structure DecisionReceiptCanonicalVerifier where
  algorithm : SignatureAlgorithm
  keyId : Option JsString
  verifyCanonical : (canonicalPayload signature : JsString) → (receipt : SignedDecisionReceipt) →
    (envelope : JsValue) → Except JsError Bool

/-- `check(name, passed, detail)`. -/
def check (name : String) (passed : Bool) (detail : JsString) : DecisionReceiptVerificationCheck :=
  ⟨js name, passed, detail⟩

def receiptIdCheck (expectedReceiptId observed : JsString) : DecisionReceiptVerificationCheck :=
  check "receipt_id" (expectedReceiptId == observed)
    (if expectedReceiptId = observed then js "Receipt id matches canonical unsigned envelope."
      else js "Receipt id mismatch. Expected " ++ expectedReceiptId ++ js "; observed " ++ observed ++
        js ".")

def algorithmCheck (observed expected : SignatureAlgorithm) : DecisionReceiptVerificationCheck :=
  check "algorithm" (observed == expected)
    (if observed = expected then js "Signature algorithm " ++ observed.text ++ js " is expected."
      else js "Unexpected signature algorithm " ++ observed.text ++ js ".")

def envelopeCheck (signature_alg : SignatureAlgorithm) :
    Except JsError Signer.DecisionReceiptSignatureEnvelope → DecisionReceiptVerificationCheck
  | .ok strictEnvelope =>
    if strictEnvelope.algorithm ≠ signature_alg then
      check "envelope" false (js "Envelope algorithm " ++ strictEnvelope.algorithm.text ++
        js " does not match receipt signature_alg " ++ signature_alg.text ++ js ".")
    else
      check "envelope" true
        (js "Signature envelope is strict canonical base64url JSON with the expected field set.")
  | .error error => check "envelope" false error.message

/-- A KMS receipt names an immutable key; an expected key id is matched. -/
def keyIdPassed (signature_alg : SignatureAlgorithm) (embeddedKeyId : JsString)
    (expectedKeyId : Option JsString) : Bool :=
  if signature_alg = .KMS_SIGN_RSASSA_PSS_SHA_256 then
    isImmutableKmsKeyId embeddedKeyId &&
      (expectedKeyId.filter (· != [])).all (immutableKmsKeyIdsMatch embeddedKeyId)
  else embeddedKeyId != [] && (expectedKeyId.filter (· != [])).all (embeddedKeyId == ·)

def keyIdDetail (signature_alg : SignatureAlgorithm) (embeddedKeyId : JsString)
    (expectedKeyId : Option JsString) : JsString :=
  let requiresImmutableKmsKeyId := signature_alg = .KMS_SIGN_RSASSA_PSS_SHA_256
  if embeddedKeyId = [] then js "Signature envelope does not contain a keyId."
  else if requiresImmutableKmsKeyId ∧ !isImmutableKmsKeyId embeddedKeyId then
    js "Signature keyId must be an immutable KMS key ARN or key UUID."
  else
    let mismatches (expected : JsString) : Bool :=
      if requiresImmutableKmsKeyId then !immutableKmsKeyIdsMatch embeddedKeyId expected
      else embeddedKeyId != expected
    match expectedKeyId.filter fun expected => expected != [] && mismatches expected with
    | some expected =>
      js "Signature keyId mismatch. Expected " ++ expected ++ js "; observed " ++ embeddedKeyId ++
        js "."
    | none => js "Signature keyId " ++ embeddedKeyId ++ js " is present."

def digestCheck (embeddedDigest recomputedDigest : JsString) : DecisionReceiptVerificationCheck :=
  check "digest" (embeddedDigest == recomputedDigest)
    (if embeddedDigest = recomputedDigest then
      js "Embedded signature digest matches canonical unsigned envelope digest."
    else js "Digest mismatch. Expected " ++ recomputedDigest ++ js "; observed " ++ embeddedDigest ++
      js ".")

def canonicalPayloadCheck (canonicalPayload : JsString) : DecisionReceiptVerificationCheck :=
  check "canonical_payload" (0 < canonicalPayload.length)
    (if 0 < canonicalPayload.length then
      js "Canonical unsigned decision receipt payload was recomputed."
    else js "Canonical unsigned decision receipt payload was empty.")

def signatureCheck (verifier : DecisionReceiptCanonicalVerifier) (receipt : SignedDecisionReceipt)
    (canonicalPayload embeddedSignature : JsString) (keyIdPassed : Bool) (envelope : JsValue) :
    DecisionReceiptVerificationCheck :=
  if embeddedSignature = [] then
    check "signature" false (js "Signature envelope does not contain a signature.")
  else if receipt.signature_alg ≠ verifier.algorithm then
    check "signature" false
      (js "Signature verification skipped because algorithm check failed.")
  else if !keyIdPassed then
    check "signature" false
      (js "Signature verification skipped because key identity check failed.")
  else
    match verifier.verifyCanonical canonicalPayload embeddedSignature receipt envelope with
    | .ok signaturePassed =>
      check "signature" signaturePassed
        (js "Signature verification over canonical unsigned envelope completed.")
    | .error error => check "signature" false error.message

/-! ### Verification -/

/-- `typeof value[key] === "string" ? value[key] : ""`, which throws on `null`. -/
def embeddedText (envelope : JsValue) (key : JsString) : Except JsError JsString :=
  match envelope with
  | .null =>
    .error ⟨.external (js "TypeError"),
      js "Cannot read properties of null (reading '" ++ key ++ js "')", []⟩
  | .object entries => .ok ((readString (Signer.readMember entries key)).getD [])
  | _ => .ok []

section Verification

variable (runtime : Signer.VerifierRuntime) (verifier : DecisionReceiptCanonicalVerifier)

/-- Without `JSON.parse` of the signature, its envelope is empty. -/
def parseDecisionReceiptSignatureEnvelope (signatureEnvelope : JsString) : JsValue :=
  (Signer.envelopeJson runtime signatureEnvelope).getD (.object [])

def receiptChecks (receipt : SignedDecisionReceipt) :
    Except JsError (List DecisionReceiptVerificationCheck) := do
  let receiptRuntime := runtime.toReceiptRuntime
  let unsigned ← unsignedReceiptForSigning receiptRuntime receipt.toUnsignedDecisionReceipt
  let expectedReceiptId ← receiptIdFromUnsignedDecisionReceipt receiptRuntime unsigned.toReceiptBody
  let strictEnvelope :=
    Signer.decodeDecisionReceiptSignatureEnvelope runtime receipt.receipt_signature
  let canonicalPayload ←
    canonicalUnsignedDecisionReceipt receiptRuntime receipt.toUnsignedDecisionReceipt
  let envelope := parseDecisionReceiptSignatureEnvelope runtime receipt.receipt_signature
  let embeddedKeyId ← embeddedText envelope (js "keyId")
  let embeddedDigest ← embeddedText envelope (js "digestSha256")
  let embeddedSignature ← embeddedText envelope (js "signature")
  let keyPassed := keyIdPassed receipt.signature_alg embeddedKeyId verifier.keyId
  let recomputedDigest ← decisionReceiptDigest receiptRuntime receipt.toUnsignedDecisionReceipt
  return [
    receiptIdCheck expectedReceiptId receipt.receipt_id,
    algorithmCheck receipt.signature_alg verifier.algorithm,
    envelopeCheck receipt.signature_alg strictEnvelope,
    check "key_id" keyPassed (keyIdDetail receipt.signature_alg embeddedKeyId verifier.keyId),
    digestCheck embeddedDigest recomputedDigest,
    canonicalPayloadCheck canonicalPayload,
    signatureCheck verifier receipt canonicalPayload embeddedSignature keyPassed envelope]

def verifyDecisionReceipt (value : JsValue) : Except JsError DecisionReceiptVerificationResult :=
  match validateSignedDecisionReceipt runtime.toReceiptRuntime value with
  | .error error => .ok ⟨false, [check "schema" false error.message]⟩
  | .ok receipt => do
    let later ← receiptChecks runtime verifier receipt
    let checks :=
      check "schema" true (js "Decision receipt matches ghost.receipt.v1 schema.") :: later
    return ⟨checks.all (·.passed), checks⟩

variable {runtime verifier}

variable {receipt : SignedDecisionReceipt} {members : List (JsString × JsValue)}
  {envelope : Signer.DecisionReceiptSignatureEnvelope}

theorem signatureCheck_passed_iff {canonicalPayload embeddedSignature : JsString} {keyPassed : Bool}
    {envelope : JsValue} (nonempty : embeddedSignature ≠ []) :
    (signatureCheck verifier receipt canonicalPayload embeddedSignature keyPassed
      envelope).passed = true ↔
      receipt.signature_alg = verifier.algorithm ∧ keyPassed = true ∧
        verifier.verifyCanonical canonicalPayload embeddedSignature receipt envelope = .ok true := by
  rw [signatureCheck, if_neg nonempty]
  by_cases sameAlgorithm : receipt.signature_alg = verifier.algorithm
  swap
  · rw [if_pos sameAlgorithm]
    exact iff_of_false (fun passed => by cases passed) fun facts => sameAlgorithm facts.1
  rw [if_neg (not_not.mpr sameAlgorithm)]
  cases keyPassed with
  | false =>
    refine iff_of_false (fun passed => by cases passed) ?_
    rintro ⟨-, passed, -⟩
    cases passed
  | true =>
    rw [if_neg (by decide)]
    cases verifier.verifyCanonical canonicalPayload embeddedSignature receipt envelope with
    | ok signaturePassed => simp [check, sameAlgorithm]
    | error error => simp [check]

section Decoded

variable {receiptId canonicalPayload : JsString}
  (identified : receiptIdFromUnsignedDecisionReceipt runtime.toReceiptRuntime
    receipt.toReceiptBody = .ok receiptId)
  (canonical : canonicalUnsignedDecisionReceipt runtime.toReceiptRuntime
    receipt.toUnsignedDecisionReceipt = .ok canonicalPayload)
  (parsed : Signer.envelopeJson runtime receipt.receipt_signature = some (.object members))
  (decoded : Signer.decodeDecisionReceiptSignatureEnvelope runtime receipt.receipt_signature =
    .ok envelope) (shape : Signer.EnvelopeShape members envelope)
include identified canonical parsed decoded shape

theorem receiptChecks_decoded :
    receiptChecks runtime verifier receipt = .ok [
      receiptIdCheck receiptId receipt.receipt_id,
      algorithmCheck receipt.signature_alg verifier.algorithm,
      envelopeCheck receipt.signature_alg (.ok envelope),
      check "key_id" (keyIdPassed receipt.signature_alg envelope.keyId verifier.keyId)
        (keyIdDetail receipt.signature_alg envelope.keyId verifier.keyId),
      digestCheck envelope.digestSha256 (sha256Hex runtime.toRuntime canonicalPayload),
      canonicalPayloadCheck canonicalPayload,
      signatureCheck verifier receipt canonicalPayload envelope.signature
        (keyIdPassed receipt.signature_alg envelope.keyId verifier.keyId) (.object members)] := by
  have isParsed : parseDecisionReceiptSignatureEnvelope runtime receipt.receipt_signature =
      .object members := by
    rw [parseDecisionReceiptSignatureEnvelope, parsed]
    rfl
  have digest : decisionReceiptDigest runtime.toReceiptRuntime
      receipt.toUnsignedDecisionReceipt = .ok (sha256Hex runtime.toRuntime canonicalPayload) := by
    rw [decisionReceiptDigest, canonical]
    rfl
  rw [receiptChecks, unsignedReceiptForSigning, validateUnsignedDecisionReceipt_toJs, ok_bind,
    identified, ok_bind, decoded, canonical, ok_bind, isParsed, digest]
  simp only [embeddedText, shape.keyId, shape.digestSha256, shape.signature, readString,
    Option.getD_some, ok_bind]
  rfl

theorem verdict_iff_of_decoded {value : JsValue}
    (validated : validateSignedDecisionReceipt runtime.toReceiptRuntime value = .ok receipt) :
    (∃ result, verifyDecisionReceipt runtime verifier value = .ok result ∧
      result.verdict = true) ↔
      receiptId = receipt.receipt_id ∧ receipt.signature_alg = verifier.algorithm ∧
        envelope.algorithm = receipt.signature_alg ∧
        keyIdPassed receipt.signature_alg envelope.keyId verifier.keyId = true ∧
        envelope.digestSha256 = sha256Hex runtime.toRuntime canonicalPayload ∧
        verifier.verifyCanonical canonicalPayload envelope.signature receipt (.object members) =
          .ok true := by
  have nonempty : envelope.signature ≠ [] := by
    intro empty
    have shaped := shape.signatureShape
    rw [empty] at shaped
    cases shaped
  have payload : 0 < canonicalPayload.length :=
    List.length_pos_iff.mpr (canonicalUnsigned_ne_nil canonical)
  have sameEnvelope : (envelopeCheck receipt.signature_alg (.ok envelope)).passed = true ↔
      envelope.algorithm = receipt.signature_alg := by
    rw [envelopeCheck]
    split
    next differs => exact iff_of_false (fun passed => by cases passed) differs
    next same => exact iff_of_true rfl (not_not.mp same)
  rw [verifyDecisionReceipt, validated]
  dsimp only
  rw [receiptChecks_decoded identified canonical parsed decoded shape, ok_bind]
  simp only [pure_eq_ok, exists_eq_left', List.all_cons, List.all_nil, Bool.and_true,
    Bool.and_eq_true, sameEnvelope, signatureCheck_passed_iff nonempty, receiptIdCheck,
    algorithmCheck, digestCheck, canonicalPayloadCheck, check, beq_iff_eq, decide_eq_true_eq,
    payload, true_and]
  constructor
  · rintro ⟨receiptId, algorithm, envelope, key, digest, -, -, verified⟩
    exact ⟨receiptId, algorithm, envelope, key, digest, verified⟩
  · rintro ⟨receiptId, algorithm, envelope, key, digest, verified⟩
    exact ⟨receiptId, algorithm, envelope, key, digest, algorithm, key, verified⟩

end Decoded

theorem decoded_of_verdict {value : JsValue} {result : DecisionReceiptVerificationResult}
    (returned : verifyDecisionReceipt runtime verifier value = .ok result)
    (verdict : result.verdict = true) :
    ∃ receipt envelope,
      validateSignedDecisionReceipt runtime.toReceiptRuntime value = .ok receipt ∧
        Signer.decodeDecisionReceiptSignatureEnvelope runtime receipt.receipt_signature =
          .ok envelope := by
  unfold verifyDecisionReceipt at returned
  cases validated : validateSignedDecisionReceipt runtime.toReceiptRuntime value with
  | error error =>
    rw [validated] at returned
    cases returned
    cases verdict
  | ok receipt =>
    rw [validated] at returned
    dsimp only at returned
    rw [bind_eq_ok] at returned
    rcases returned with ⟨later, checked, returned⟩
    rw [pure_eq_ok] at returned
    subst returned
    unfold receiptChecks at checked
    simp only [bind_eq_ok, pure_eq_ok] at checked
    rcases checked with ⟨_, -, _, -, _, -, _, -, _, -, _, -, _, -, rfl⟩
    simp only [List.all_cons, Bool.and_eq_true] at verdict
    rcases verdict with ⟨-, -, -, envelopePassed, -⟩
    cases decoded : Signer.decodeDecisionReceiptSignatureEnvelope runtime
        receipt.receipt_signature with
    | ok envelope => exact ⟨receipt, envelope, rfl, decoded⟩
    | error error =>
      rw [decoded] at envelopePassed
      cases envelopePassed

end Verification

end GhostArk.EnforcementRuntime.Receipts
