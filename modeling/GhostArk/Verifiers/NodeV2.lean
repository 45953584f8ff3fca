import GhostArk.EnforcementRuntime.Receipts.LocalDevHmac
import GhostArk.EnforcementRuntime.Receipts.V2.Emission

/-!
Contract: `verifiers/node/ghost_receipt_v2_verify.mjs`.

Owns the standalone verifier of second-layer receipts with its checks and their
details: canonical text, envelope decoding, the trace check, and the verdict.

The verifier reads an untyped value. A pattern is tested against the text of
whatever a member holds, except where the type is checked first.
-/

namespace GhostArk.Verifiers.NodeV2

open Js ReceiptSchema
open EnforcementRuntime.Policy (property)
open EnforcementRuntime.Receipts
open EnforcementRuntime.Receipts.V2

/-- Host functions of the verifier. -/
structure NodeRuntime extends Signer.VerifierRuntime where
  hostText : HostKind → Except JsError JsString
  /-- `Buffer.from(value, "base64")`. -/
  base64Buffer : JsValue → Except JsError (List Nat)

def NodeRuntime.coercion (runtime : NodeRuntime) : Coercion := ⟨runtime.numbers, runtime.hostText⟩

def V2_SCHEMA_VERSION : JsString := js "ghost.receipt.v2"

def ENVELOPE_SCHEMA_VERSION : JsString := js "ghost.decision_receipt_signature.v1"

def HMAC_ALGORITHM : JsString := js "LOCAL_HMAC_SHA256_DEV_ONLY"

def KMS_ALGORITHM : JsString := js "KMS_SIGN_RSASSA_PSS_SHA_256"

/-- `/^grct2_[a-f0-9]{64}$/`. -/
def isV2ReceiptId (value : JsString) : Bool := isTaggedHex64 "grct2_" value

structure Check where
  name : JsString
  passed : Bool
  detail : JsString
deriving DecidableEq, Repr

structure VerificationResult where
  verdict : Bool
  checks : List Check
deriving DecidableEq, Repr

structure VerificationOptions where
  expectedTenantHash : Option JsString
  hmacSecret : Option JsString

/-- `fail(checks, name, detail)`. -/
def fail (name detail : JsString) : Check := ⟨name, false, detail⟩

/-- `pass(checks, name, detail)`. -/
def pass (name detail : JsString) : Check := ⟨name, true, detail⟩

section Canonical

variable (numbers : NumberText)

mutual

def canonicalize : JsValue → Except JsError JsString
  | .undefined => .error (.plain (js "undefined is not canonicalizable"))
  | .hole => .error (.plain (js "undefined is not canonicalizable"))
  | .null => .ok (js "null")
  | .string value => .ok (quote value)
  | .bool true => .ok (js "true")
  | .bool false => .ok (js "false")
  | .number value =>
    if value.isFinite then .ok (numbers.json value)
    else .error (.plain (js "non-finite number"))
  | .array items => (canonicalizeItems items).map jsonArray
  | .object entries =>
    (sequenceEntries (sortEntries (canonicalizeEntries entries))).map jsonObject
  | .host .bigint => .error (.plain (js "unsupported value of type bigint"))
  | .host .function => .error (.plain (js "unsupported value of type function"))
  | .host .symbol => .error (.plain (js "unsupported value of type symbol"))
  | .host _ => .error (.plain (js "non-plain object is not canonicalizable"))

/-- `map` passes over a hole, which `join` then writes as an empty text. -/
def canonicalizeItems : List JsValue → Except JsError (List JsString)
  | [] => .ok []
  | item :: rest => do
    let text ←
      match item with
      | .hole => pure []
      | item => canonicalize item
    return text :: (← canonicalizeItems rest)

def canonicalizeEntries : List (JsString × JsValue) → List (JsString × Except JsError JsString)
  | [] => []
  | (key, value) :: rest => (key, canonicalize value) :: canonicalizeEntries rest

end

end Canonical

def without (key : JsString) (entries : List (JsString × JsValue)) : List (JsString × JsValue) :=
  entries.filter fun entry => entry.1 ≠ key

section Verification

variable (runtime : NodeRuntime)

def decodeEnvelope (receiptSignature : JsValue) : Except JsError (List (JsString × JsValue)) := do
  let some text := (readString receiptSignature).filter Signer.isBase64UrlText
    | throw (.plain (js "receipt_signature must be unpadded base64url text"))
  let some parsed := Signer.envelopeJson runtime.toVerifierRuntime text
    | throw ⟨.external (js "SyntaxError"),
        runtime.syntaxErrorMessage (decodeUtf8 (Signer.base64Bytes text)), []⟩
  let some envelope := recordEntries parsed
    | throw (.plain (js "envelope must decode to an object"))
  if sortStrings (envelope.map Prod.fst) ≠ Signer.envelopeKeys then
    throw (.plain (js "envelope has an unexpected field set"))
  return envelope

/-- One round of the loop: the sequence number, or `none` at `ok = false; break`. -/
def checkTraceEntry (entry : JsValue) (index : Nat) (previous : Int) :
    Except JsError (Option Nat) := do
  let some members := objectMembers entry
    | return none
  let some sequenceNum := readSequenceNum (property members "sequence_num")
    | return none
  if 0 < index ∧ (sequenceNum : Int) ≤ previous then return none
  else if !isText isToolName (property members "tool_name") then return none
  else if !(← runtime.coercion.test isReceiptHash (property members "request_payload_digest")) then
    return none
  else if !(← runtime.coercion.test isReceiptHash (property members "response_payload_digest")) then
    return none
  else if !isAllowedTraceClass (property members "provenance_class") then return none
  else return some sequenceNum

/-- The loop from a given index; the result is `ok`. -/
def checkTraceFrom : Nat → Int → List JsValue → Except JsError Bool
  | _, _, [] => .ok true
  | index, previous, entry :: rest => do
    match ← checkTraceEntry runtime entry index previous with
    | none => return false
    | some sequenceNum => checkTraceFrom (index + 1) sequenceNum rest

def checkTrace : JsValue → Except JsError Check
  | .array trace => do
    if ← checkTraceFrom runtime 0 (-1) trace then
      return pass (js "execution_trace")
        (js "execution_trace has " ++ runtime.numbers.string (.ofNat trace.length) ++
          js " strictly ordered gateway-recorded entries.")
    else
      return fail (js "execution_trace")
        (js "execution_trace failed shape, ordering, or class validation.")
  | _ => .ok (fail (js "execution_trace") (js "execution_trace must be an array."))

/-! ### Receipt -/

def fieldCheck (receipt : List (JsString × JsValue)) (name : String)
    (pattern : JsString → Bool) : Check :=
  if isText pattern (property receipt name) then pass (js name) (js name ++ js " is well-formed.")
  else fail (js name) (js name ++ js " failed shape validation.")

def fieldChecks (receipt : List (JsString × JsValue)) : List Check :=
  [fieldCheck receipt "tenant_id_hash" isDigest, fieldCheck receipt "input_digest" isDigest,
    fieldCheck receipt "execution_context_hash" isReceiptHash,
    fieldCheck receipt "policy_hash" isHex64, fieldCheck receipt "execution_nonce" isExecutionNonce]

/-- `value ?? ""`. -/
def orEmpty : JsValue → JsValue
  | .undefined => .string []
  | .hole => .string []
  | .null => .string []
  | value => value

def receiptIdCheck (expectedId : JsString) (receipt_id : JsValue) : Except JsError Check := do
  if !(← runtime.coercion.test isV2ReceiptId (orEmpty receipt_id)) then
    return fail (js "receipt_id_shape") (js "receipt_id does not match grct2 pattern.")
  else if readString receipt_id ≠ some expectedId then
    return fail (js "receipt_id") (js "receipt_id mismatch. expected " ++ expectedId ++
      js "; observed " ++ (← runtime.coercion.toText receipt_id) ++ js ".")
  else
    return pass (js "receipt_id") (js "receipt_id matches canonical unsigned identity payload.")

def digestCheck (recomputedDigest : JsString) (digestSha256 : JsValue) : Except JsError Check := do
  if readString digestSha256 ≠ some recomputedDigest then
    return fail (js "digest") (js "digest mismatch. expected " ++ recomputedDigest ++
      js "; observed " ++ (← runtime.coercion.toText digestSha256) ++ js ".")
  else return pass (js "digest") (js "envelope digest matches recomputed canonical digest.")

/-- An absent or empty expectation adds no check, and neither does a met one. -/
def tenantExpectation (options : VerificationOptions) (tenant_id_hash : JsValue) : List Check :=
  match options.expectedTenantHash.filter (· ≠ []) with
  | none => []
  | some expected =>
    if readString tenant_id_hash ≠ some expected then
      [fail (js "tenant_expectation") (js "tenant_id_hash does not match expected value.")]
    else []

def hmacMatches (secret canonicalUnsigned : JsString) (signature : JsValue) : Bool :=
  let expected := Signer.hexBytes (runtime.hmacSha256.hmacHex secret canonicalUnsigned)
  let observed := (runtime.base64Buffer signature).toOption.getD []
  expected == observed

def signatureCheck (options : VerificationOptions) (canonicalUnsigned : JsString)
    (envelope : List (JsString × JsValue)) : Except JsError Check := do
  let algorithm := property envelope "algorithm"
  if readString algorithm = some HMAC_ALGORITHM then
    match options.hmacSecret.filter (· ≠ []) with
    | none =>
      return fail (js "signature") (js "HMAC verification requested but no hmac-secret provided.")
    | some secret =>
      let isMatch := hmacMatches runtime secret canonicalUnsigned (property envelope "signature")
      return ⟨js "signature", isMatch,
        if isMatch then js "dev-only HMAC signature verified over canonical v2 payload."
        else js "dev-only HMAC signature mismatch."⟩
  else if readString algorithm = some KMS_ALGORITHM then
    return fail (js "signature")
      (js "KMS RSA-PSS verification is out of scope for this bounded v2 verifier.")
  else
    return fail (js "signature") (js "unsupported signature algorithm " ++
      (← runtime.coercion.toText algorithm) ++ js ".")

def verifyMembers (receipt : List (JsString × JsValue)) (options : VerificationOptions) :
    Except JsError VerificationResult := do
  let version := pass (js "schema_version") (js "schema_version is ghost.receipt.v2.")
  let traceCheck ← checkTrace runtime (property receipt "execution_trace")
  let unsignedWithId := without (js "receipt_signature") receipt
  let identityPayload := without (js "receipt_id") unsignedWithId
  let identityText ← canonicalize runtime.numbers (.object identityPayload)
  let idCheck ← receiptIdCheck runtime
    (js "grct2_" ++ runtime.sha256.sha256Hex identityText) (property receipt "receipt_id")
  let canonicalUnsigned ← canonicalize runtime.numbers (.object unsignedWithId)
  let recomputedDigest := runtime.sha256.sha256Hex canonicalUnsigned
  let checks := version :: fieldChecks receipt ++ [traceCheck, idCheck]
  match decodeEnvelope runtime (property receipt "receipt_signature") with
  | .error error => return ⟨false, checks ++ [fail (js "envelope") error.message]⟩
  | .ok envelope =>
    let decoded := pass (js "envelope")
      (js "signature envelope is strict base64url JSON with the expected field set.")
    let digest ← digestCheck runtime recomputedDigest (property envelope "digestSha256")
    let signature ← signatureCheck runtime options canonicalUnsigned envelope
    let all := checks ++ [decoded, digest] ++
      tenantExpectation options (property receipt "tenant_id_hash") ++ [signature]
    return ⟨all.all (·.passed), all⟩

def verifyReceiptV2 (value : JsValue) (options : VerificationOptions) :
    Except JsError VerificationResult :=
  match recordEntries value with
  | none => .ok ⟨false, [fail (js "shape") (js "receipt must be an object.")]⟩
  | some receipt =>
    if readString (property receipt "schema_version") ≠ some V2_SCHEMA_VERSION then
      .ok ⟨false,
        [fail (js "schema_version") (js "expected " ++ V2_SCHEMA_VERSION ++ js ".")]⟩
    else verifyMembers runtime receipt options

end Verification

section Accepted

variable {runtime : NodeRuntime}

theorem quit_eq_some {α : Type} {fires : Prop} [Decidable fires]
    {next : Except JsError (Option α)} {result : α} :
    (if fires then pure none else next) = .ok (some result) ↔
      ¬ fires ∧ next = .ok (some result) := by
  by_cases isFired : fires
  · rw [if_pos isFired]
    exact iff_of_false (fun ended => by cases ended) fun both => both.1 isFired
  · rw [if_neg isFired]
    exact (and_iff_right isFired).symm

theorem checkTraceEntry_eq_some_iff {entry : JsValue} {index sequenceNum : Nat} {previous : Int} :
    checkTraceEntry runtime entry index previous = .ok (some sequenceNum) ↔
      ∃ members, objectMembers entry = some members ∧
        readSequenceNum (property members "sequence_num") = some sequenceNum ∧
        ¬ (0 < index ∧ (sequenceNum : Int) ≤ previous) ∧
        isText isToolName (property members "tool_name") = true ∧
        runtime.coercion.test isReceiptHash (property members "request_payload_digest") =
          .ok true ∧
        runtime.coercion.test isReceiptHash (property members "response_payload_digest") =
          .ok true ∧
        isAllowedTraceClass (property members "provenance_class") = true := by
  unfold checkTraceEntry
  cases objectMembers entry with
  | none => simp
  | some members =>
    dsimp only
    cases sequenced : readSequenceNum (property members "sequence_num") with
    | none => simp [sequenced]
    | some number =>
      dsimp only
      simp only [quit_eq_some, bind_eq_ok, pure_eq_ok, Bool.not_eq_true', Bool.not_eq_false,
        Option.some.injEq, exists_eq_left', sequenced]
      constructor
      · rintro ⟨increasing, named, _, request, rfl, _, response, rfl, allowed, rfl⟩
        exact ⟨rfl, increasing, named, request, response, allowed⟩
      · rintro ⟨rfl, increasing, named, request, response, allowed⟩
        exact ⟨increasing, named, true, request, rfl, true, response, rfl, allowed, rfl⟩

theorem checkTraceFrom_cons_eq_true_iff {index : Nat} {previous : Int} {entry : JsValue}
    {rest : List JsValue} :
    checkTraceFrom runtime index previous (entry :: rest) = .ok true ↔
      ∃ sequenceNum, checkTraceEntry runtime entry index previous = .ok (some sequenceNum) ∧
        checkTraceFrom runtime (index + 1) sequenceNum rest = .ok true := by
  rw [checkTraceFrom, bind_eq_ok]
  constructor
  · rintro ⟨outcome, checked, rest⟩
    cases outcome with
    | none => cases rest
    | some sequenceNum => exact ⟨sequenceNum, checked, rest⟩
  · rintro ⟨sequenceNum, checked, rest⟩
    exact ⟨some sequenceNum, checked, rest⟩

theorem checkTrace_passed {trace : JsValue} {outcome : Check}
    (returned : checkTrace runtime trace = .ok outcome) (passed : outcome.passed = true) :
    ∃ entries, trace = .array entries ∧ checkTraceFrom runtime 0 (-1) entries = .ok true := by
  cases trace with
  | array entries =>
    rw [checkTrace, bind_eq_ok] at returned
    rcases returned with ⟨ok, checked, outcomeEq⟩
    cases ok with
    | true => exact ⟨entries, rfl, checked⟩
    | false =>
      cases outcomeEq
      cases passed
  | _ =>
    cases returned
    cases passed

theorem isText_of_fieldCheck {receipt : List (JsString × JsValue)} {name : String}
    {pattern : JsString → Bool} (passed : (fieldCheck receipt name pattern).passed = true) :
    isText pattern (property receipt name) = true := by
  unfold fieldCheck at passed
  split at passed
  next shaped => exact shaped
  next => cases passed

theorem signatureCheck_passed {options : VerificationOptions} {canonicalUnsigned : JsString}
    {envelope : List (JsString × JsValue)} {outcome : Check}
    (returned : signatureCheck runtime options canonicalUnsigned envelope = .ok outcome)
    (passed : outcome.passed = true) :
    readString (property envelope "algorithm") = some HMAC_ALGORITHM := by
  unfold signatureCheck at returned
  by_cases isHmac : readString (property envelope "algorithm") = some HMAC_ALGORITHM
  · exact isHmac
  rw [if_neg isHmac] at returned
  by_cases isKms : readString (property envelope "algorithm") = some KMS_ALGORITHM
  · rw [if_pos isKms] at returned
    cases returned
    cases passed
  · rw [if_neg isKms, bind_eq_ok] at returned
    rcases returned with ⟨text, -, outcomeEq⟩
    cases outcomeEq
    cases passed

/-- What a verdict of `true` says of the receipt and of its envelope. -/
structure Accepted (runtime : NodeRuntime) (receipt envelope : List (JsString × JsValue)) :
    Prop where
  version : readString (property receipt "schema_version") = some V2_SCHEMA_VERSION
  tenant : isText isDigest (property receipt "tenant_id_hash") = true
  input : isText isDigest (property receipt "input_digest") = true
  context : isText isReceiptHash (property receipt "execution_context_hash") = true
  policy : isText isHex64 (property receipt "policy_hash") = true
  nonce : isText isExecutionNonce (property receipt "execution_nonce") = true
  trace : ∃ entries, property receipt "execution_trace" = .array entries ∧
    checkTraceFrom runtime 0 (-1) entries = .ok true
  decoded : decodeEnvelope runtime (property receipt "receipt_signature") = .ok envelope
  algorithm : readString (property envelope "algorithm") = some HMAC_ALGORITHM

theorem accepted_of_verdict {value : JsValue} {options : VerificationOptions}
    {result : VerificationResult} (returned : verifyReceiptV2 runtime value options = .ok result)
    (verdict : result.verdict = true) :
    ∃ receipt envelope, recordEntries value = some receipt ∧
      Accepted runtime receipt envelope := by
  unfold verifyReceiptV2 at returned
  cases isRecord : recordEntries value with
  | none =>
    rw [isRecord] at returned
    cases returned
    cases verdict
  | some receipt =>
    rw [isRecord] at returned
    dsimp only at returned
    by_cases version : readString (property receipt "schema_version") = some V2_SCHEMA_VERSION
    swap
    · rw [if_pos version] at returned
      cases returned
      cases verdict
    rw [if_neg (not_not.mpr version)] at returned
    unfold verifyMembers at returned
    simp only [bind_eq_ok] at returned
    rcases returned with ⟨traceCheck, traced, identityText, -, idCheck, -, canonicalUnsigned, -,
      returned⟩
    cases decoded : decodeEnvelope runtime (property receipt "receipt_signature") with
    | error error =>
      rw [decoded] at returned
      cases returned
      cases verdict
    | ok envelope =>
      rw [decoded] at returned
      simp only [bind_eq_ok] at returned
      rcases returned with ⟨digest, -, signature, signed, resultEq⟩
      cases resultEq
      simp only [List.all_append, List.all_cons, Bool.and_eq_true, fieldChecks] at verdict
      rcases verdict with ⟨⟨⟨⟨⟨-, tenant, input, context, policy, nonce, -⟩, trace, -⟩, -⟩, -⟩,
        signaturePassed, -⟩
      exact ⟨receipt, envelope, rfl, {
        version := version
        tenant := isText_of_fieldCheck tenant
        input := isText_of_fieldCheck input
        context := isText_of_fieldCheck context
        policy := isText_of_fieldCheck policy
        nonce := isText_of_fieldCheck nonce
        trace := checkTrace_passed traced trace
        decoded := decoded
        algorithm := signatureCheck_passed signed signaturePassed }⟩

end Accepted

end GhostArk.Verifiers.NodeV2
