import GhostArk.EnforcementRuntime.Receipts.Canonical
import GhostArk.Js.Sha256

/-!
Contract: `packages/enforcement-runtime/src/receipts/signer.ts`, encoding side.

Owns base64 texts, the signature envelope that a signed receipt carries with the
assertions made before it is encoded, and the signing of a receipt.

Does not own: decoding of envelopes, local signing keys, or verification.
-/

namespace GhostArk.EnforcementRuntime.Receipts.Signer

open Js ReceiptSchema

def isBase64Unit (codeUnit : CodeUnit) : Bool :=
  isAlphanumeric codeUnit || codeUnit == unit '+' || codeUnit == unit '/'

/-- `Buffer.from(text, "base64").length`. Both alphabets are read, other units are skipped. -/
def base64DecodedLength (text : JsString) : Nat :=
  (text.filter fun codeUnit =>
    isBase64Unit codeUnit || codeUnit == unit '-' || codeUnit == unit '_').length * 6 / 8

def base64UrlDigit (bits : Nat) : CodeUnit :=
  if bits < 26 then Fin.ofNat 65536 (65 + bits)
  else if bits < 52 then Fin.ofNat 65536 (71 + bits)
  else if bits < 62 then Fin.ofNat 65536 (bits - 4)
  else if bits = 62 then unit '-'
  else unit '_'

/-- `Buffer.from(bytes).toString("base64url")`. -/
def base64Url : List Nat → JsString
  | [] => []
  | [b0] => [b0 / 4, b0 % 4 * 16].map base64UrlDigit
  | [b0, b1] => [b0 / 4, b0 % 4 * 16 + b1 / 16, b1 % 16 * 4].map base64UrlDigit
  | b0 :: b1 :: b2 :: rest =>
    [b0 / 4, b0 % 4 * 16 + b1 / 16, b1 % 16 * 4 + b2 / 64, b2 % 64].map base64UrlDigit ++
      base64Url rest

/-- `/^(?:[A-Za-z0-9+/]{4})*(?:[A-Za-z0-9+/]{2}==|[A-Za-z0-9+/]{3}=)?$/`. -/
def isStandardBase64 (text : JsString) : Bool :=
  let padding := text.dropWhile isBase64Unit
  text.length % 4 == 0 && (padding == [] || padding == js "=" || padding == js "==")

def signatureEnvelopeSchemaVersion : JsString := js "ghost.decision_receipt_signature.v1"

def signingError (message : JsString) (context : List (JsString × JsValue)) : JsError :=
  ⟨.validationError, message,
    (js "domain", .string (js "ghost_ark.decision_receipt_signer.v1")) :: context⟩

structure DecisionReceiptSignatureEnvelope where
  keyId : JsString
  algorithm : SignatureAlgorithm
  digestSha256 : JsString
  signature : JsString

def DecisionReceiptSignatureEnvelope.toJs (envelope : DecisionReceiptSignatureEnvelope) : JsValue :=
  .object
    [(js "schemaVersion", .string signatureEnvelopeSchemaVersion),
      (js "keyId", .string envelope.keyId),
      (js "algorithm", .string envelope.algorithm.text),
      (js "digestSha256", .string envelope.digestSha256),
      (js "signature", .string envelope.signature)]

def assertLowerSha256Hex (name value : JsString) : Except JsError Unit :=
  if isHex64 value then .ok ()
  else
    .error (signingError (name ++ js " must be a lowercase SHA-256 hex digest.")
      [(js "field", .string name)])

def assertStandardBase64Signature (signature : JsString) : Except JsError Unit :=
  if signature.length = 0 then
    .error (signingError (js "signature must be a non-empty string.")
      [(js "field", .string (js "signature"))])
  else if !isStandardBase64 signature then
    .error (signingError (js "signature must be standard base64-encoded bytes.")
      [(js "field", .string (js "signature"))])
  else if base64DecodedLength signature = 0 then
    .error (signingError (js "signature must decode to non-empty bytes.")
      [(js "field", .string (js "signature"))])
  else .ok ()

/-- The checks of a typed envelope: its keys, version and algorithm are fixed by its type. -/
def assertEnvelopeShape (envelope : DecisionReceiptSignatureEnvelope) : Except JsError Unit := do
  if envelope.keyId.length = 0 then
    throw (signingError (js "receipt_signature envelope keyId must be non-empty.")
      [(js "field", .string (js "keyId"))])
  assertLowerSha256Hex (js "digestSha256") envelope.digestSha256
  assertStandardBase64Signature envelope.signature

def encodeDecisionReceiptSignatureEnvelope (runtime : ReceiptRuntime)
    (envelope : DecisionReceiptSignatureEnvelope) : Except JsError JsString := do
  assertEnvelopeShape envelope
  let text ← canonicalize runtime.numbers envelope.toJs
  return base64Url (utf8 text)

/-- `DecisionReceiptSigner`; the type leaves no other algorithm. -/
structure DecisionReceiptSigner where
  keyId : JsString
  algorithm : SignatureAlgorithm
  signCanonical : (canonicalPayload : JsString) → Except JsError JsString

def assertSignerShape (signer : DecisionReceiptSigner) : Except JsError Unit :=
  if signer.keyId.length = 0 then
    .error (signingError (js "keyId must be a non-empty string.")
      [(js "field", .string (js "keyId"))])
  else .ok ()

def algorithmMismatch (unsigned : UnsignedDecisionReceipt) (signer : DecisionReceiptSigner) :
    JsError :=
  signingError
    (js "Receipt signature_alg " ++ unsigned.signature_alg.text ++
      js " does not match signer algorithm " ++ signer.algorithm.text)
    [(js "receiptAlgorithm", .string unsigned.signature_alg.text),
      (js "signerAlgorithm", .string signer.algorithm.text)]

def buildDecisionReceiptSignatureEnvelope (runtime : ReceiptRuntime)
    (receipt : UnsignedDecisionReceipt) (signer : DecisionReceiptSigner) :
    Except JsError DecisionReceiptSignatureEnvelope := do
  assertSignerShape signer
  let unsigned ← validateUnsignedDecisionReceipt runtime receipt.toJs
  if unsigned.signature_alg ≠ signer.algorithm then
    throw (algorithmMismatch unsigned signer)
  if signer.algorithm = .KMS_SIGN_RSASSA_PSS_SHA_256 then
    assertNonDefaultExecutionBoundary runtime unsigned
  let canonicalPayload ← canonicalUnsignedDecisionReceipt runtime unsigned
  let signature ← signer.signCanonical canonicalPayload
  assertStandardBase64Signature signature
  let digestSha256 ← decisionReceiptDigest runtime unsigned
  return { keyId := signer.keyId, algorithm := signer.algorithm, digestSha256, signature }

def signDecisionReceipt (runtime : ReceiptRuntime) (receipt : JsValue)
    (signer : DecisionReceiptSigner) : Except JsError SignedDecisionReceipt := do
  let unsigned ← validateUnsignedDecisionReceipt runtime receipt
  let signatureEnvelope ← buildDecisionReceiptSignatureEnvelope runtime unsigned signer
  let receipt_signature ← encodeDecisionReceiptSignatureEnvelope runtime signatureEnvelope
  validateSignedDecisionReceipt runtime (unsigned.toJsWithSignature receipt_signature)

end GhostArk.EnforcementRuntime.Receipts.Signer
